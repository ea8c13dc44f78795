import Mathlib.Algebra.Group.Nat.Defs
import Mathlib.Data.List.Basic
import TextChain.Proofs.DigitTexts
import TextChain.Proofs.LoneSteps

/-!
Texts as the codes of their characters. In base two the codes stand apart and have as many figures as they
need, but at least eight; in base sixteen they stand side by side, so that they can only be told apart as
long as each has two. The codes are read back from either form.
-/

namespace TextChain

variable {chance : Edit.Chance}

/-! ## Reading figures -/

def smallFigures : List Char := "0123456789abcdef".toList

/-- Reads figures, the most significant first, behind a number that was read before. There is no answer if
a character is no figure of the base. -/
def readFrom? (base number : Nat) : List Char → Option Nat
  | [] => some number
  | c :: rest =>
      ((smallFigures.take base).idxOf? c).bind fun figure => readFrom? base (number * base + figure) rest

def read? (base : Nat) (text : List Char) : Option Nat :=
  readFrom? base 0 text

section Reading
variable {base : Nat}

theorem digitChar_place {figure : Nat} (small : figure < base) (most : base ≤ 16) :
    (smallFigures.take base).idxOf? (digitChar figure) = some figure := by
  have all : ∀ base : Fin 17, ∀ figure : Fin 17, figure < base →
      (smallFigures.take base).idxOf? (digitChar figure) = some figure.val := by decide +kernel
  exact all ⟨base, by omega⟩ ⟨figure, by omega⟩ small

theorem readFrom?_digit {figure : Nat} (small : figure < base) (most : base ≤ 16) (number : Nat)
    (rest : List Char) :
    readFrom? base number (digitChar figure :: rest) = readFrom? base (number * base + figure) rest := by
  rw [readFrom?, digitChar_place small most, Option.bind_some]

theorem readFrom?_digitsOnto (least : 1 < base) (most : base ≤ 16) {fuel n : Nat} (enough : n < fuel)
    (tail : List Char) : readFrom? base 0 (digitsOnto base fuel n tail) = readFrom? base n tail := by
  induction fuel generalizing n tail with
  | zero => exact absurd enough (Nat.not_lt_zero n)
  | succ fuel ih =>
      have figure : n % base < base := Nat.mod_lt n (by omega)
      rw [digitsOnto]
      by_cases last : n < base
      · rw [if_pos last, readFrom?_digit figure most, Nat.mod_eq_of_lt last, Nat.zero_mul, Nat.zero_add]
      · have less : n / base < n := Nat.div_lt_self (by omega) least
        rw [if_neg last, ih (by omega), readFrom?_digit figure most, Nat.div_add_mod']

theorem readFrom?_zeros (least : 1 < base) (most : base ≤ 16) (count : Nat) (tail : List Char) :
    readFrom? base 0 (List.replicate count '0' ++ tail) = readFrom? base 0 tail := by
  induction count with
  | zero => rfl
  | succ count ih =>
      have zero : readFrom? base 0 ('0' :: (List.replicate count '0' ++ tail)) =
          readFrom? base (0 * base + 0) (List.replicate count '0' ++ tail) :=
        readFrom?_digit (Nat.zero_lt_of_lt least) most 0 _
      rw [List.replicate_succ, List.cons_append, zero, Nat.zero_mul, ih]

theorem read?_padded (least : 1 < base) (most : base ≤ 16) (width n : Nat) :
    read? base (paddedDigits base width n) = some n := by
  rw [read?, paddedDigits, readFrom?_zeros least most]
  exact readFrom?_digitsOnto least most (Nat.lt_succ_self n) []

theorem readFrom?_figures {number n : Nat} {text : List Char} (read : readFrom? base number text = some n) :
    ∀ c ∈ text, c ∈ smallFigures := by
  induction text generalizing number with
  | nil => exact nofun
  | cons c rest ih =>
      obtain ⟨figure, placed, read⟩ := Option.bind_eq_some_iff.mp read
      have listed : c ∈ smallFigures.take base := by
        by_contra missing
        rw [List.idxOf?_eq_none_iff.mpr missing] at placed
        cases placed
      exact List.forall_mem_cons.mpr ⟨List.mem_of_mem_take listed, ih read⟩

theorem paddedDigits_width (base width n : Nat) : width ≤ (paddedDigits base width n).length := by
  rw [paddedDigits, List.length_append, List.length_replicate]
  omega

theorem paddedDigits_exact (least : 1 < base) (most : base ≤ 16) {width n : Nat} (some : 0 < width)
    (small : n < base ^ width) : (paddedDigits base width n).length = width := by
  have fits : (digits base n).length ≤ width := by
    rw [digits_usual (by omega) most]
    exact (Nat.length_toDigits_le_iff least some).mpr small
  rw [paddedDigits, List.length_append, List.length_replicate]
  omega

end Reading

/-! ## Groups -/

def spacedGroups (text : List Char) : List (List Char) :=
  (text.splitOn ' ').filter (!·.isEmpty)

/-- The characters of a text two by two. -/
def pairs : List Char → List (List Char)
  | [] => []
  | [last] => [[last]]
  | first :: second :: rest => [first, second] :: pairs rest

theorem spacedGroups_joined {groups : List (List Char)}
    (proper : ∀ group ∈ groups, group ≠ [] ∧ ' ' ∉ group) :
    spacedGroups ([' '].intercalate groups) = groups := by
  by_cases none : groups = []
  · rw [none]
    rfl
  · have apart : ([' '].intercalate groups).splitOn ' ' = groups :=
      List.splitOn_intercalate ' ' (fun group listed => (proper group listed).2) none
    rw [spacedGroups, apart, List.filter_eq_self]
    intro group listed
    simpa using (proper group listed).1

theorem pairs_joined {groups : List (List Char)} (double : ∀ group ∈ groups, group.length = 2) :
    pairs groups.flatten = groups := by
  induction groups with
  | nil => rfl
  | cons group rest ih =>
      obtain ⟨two, later⟩ := List.forall_mem_cons.mp double
      obtain ⟨first, second, rfl⟩ := List.length_eq_two.mp two
      rw [List.flatten_cons, List.cons_append, List.cons_append, List.nil_append, pairs, ih later]

theorem binaryCode_proper (c : Char) :
    paddedDigits 2 8 c.toNat ≠ [] ∧ ' ' ∉ paddedDigits 2 8 c.toNat := by
  constructor
  · intro empty
    have wide := paddedDigits_width 2 8 c.toNat
    rw [empty] at wide
    exact absurd wide (by decide)
  · intro space
    exact absurd (readFrom?_figures (read?_padded (by decide) (by decide) 8 c.toNat) _ space) (by decide)

theorem toBinary_groups (text : List Char) :
    spacedGroups (Editing.toBinary text) = text.map fun c => paddedDigits 2 8 c.toNat := by
  apply spacedGroups_joined
  intro group listed
  obtain ⟨c, _, rfl⟩ := List.mem_map.mp listed
  exact binaryCode_proper c

theorem toHex_pairs {text : List Char} (narrow : ∀ c ∈ text, c.toNat ≤ 0xFF) :
    pairs (Editing.toHex text) = text.map fun c => paddedDigits 16 2 c.toNat := by
  apply pairs_joined
  intro group listed
  obtain ⟨c, within, rfl⟩ := List.mem_map.mp listed
  exact paddedDigits_exact (by decide) (by decide) (by decide) (Nat.lt_succ_of_le (narrow c within))

def codePoints (text : String) : List Nat := text.toList.map Char.toNat

theorem codePoints_inj {first second : String} (same : codePoints first = codePoints second) :
    first = second := by
  have distinct : Function.Injective Char.toNat := Function.LeftInverse.injective Char.ofNat_toNat
  exact String.toList_inj.mp (List.map_injective_iff.mpr distinct same)

theorem padded_codes {base : Nat} (least : 1 < base) (most : base ≤ 16) (width : Nat) (text : String) :
    (text.toList.map fun c => paddedDigits base width c.toNat).map (read? base) =
      (codePoints text).map some := by
  simp only [codePoints, List.map_map, Function.comp_def, read?_padded least most]

theorem binary_codes (text : String) :
    (spacedGroups (Editing.toBinary text.toList)).map (read? 2) = (codePoints text).map some := by
  rw [toBinary_groups]
  exact padded_codes (by decide) (by decide) 8 text

/-! ## Texts -/

theorem binary_answer (subject : Name) :
    chance.catalogue.answer .transformation "to_binary" [] subject.toValue =
      .ok (.ofChars (Editing.toBinary subject.label.toList)) := by
  rw [answer_transformation Edit.binary rfl rfl]
  simp only [Edit.binary, plainEdit, Name.toValue_letters]
  rfl

theorem hex_answer (subject : Name) :
    chance.catalogue.answer .transformation "to_hex" [] subject.toValue =
      .ok (.ofChars (Editing.toHex subject.label.toList)) := by
  rw [answer_transformation Edit.hex rfl rfl]
  simp only [Edit.hex, plainEdit, Name.toValue_letters]
  rfl

/-- The groups of figures that stand between single spaces are read in base two as the code points of the
text, and each has at least eight figures, so that different texts have different codes. Where no code point
is above 255, the figures in base sixteen are read two by two as the code points. -/
theorem codes_are_recoverable (chance : Edit.Chance) (subject : Name) :
    ∃ binary hex : String,
      chance.catalogue.answer .transformation "to_binary" [] subject.toValue = .ok (.text binary) ∧
      chance.catalogue.answer .transformation "to_hex" [] subject.toValue = .ok (.text hex) ∧
      (spacedGroups binary.toList).map (read? 2) = (codePoints subject.label).map some ∧
      (∀ group ∈ spacedGroups binary.toList, 8 ≤ group.length) ∧
      (∀ other : Name,
        chance.catalogue.answer .transformation "to_binary" [] other.toValue = .ok (.text binary) →
        other.label = subject.label) ∧
      ((∀ point ∈ codePoints subject.label, point ≤ 0xFF) →
        (pairs hex.toList).map (read? 16) = (codePoints subject.label).map some) := by
  refine ⟨_, _, binary_answer subject, hex_answer subject, ?binary, ?wide, ?distinct, ?hex⟩
  case binary =>
    rw [String.toList_ofList]
    exact binary_codes subject.label
  case wide =>
    rw [String.toList_ofList, toBinary_groups]
    intro group listed
    obtain ⟨c, _, rfl⟩ := List.mem_map.mp listed
    exact paddedDigits_width 2 8 c.toNat
  case distinct =>
    intro other same
    rw [binary_answer, Except.ok.injEq, Value.ofChars, Value.text.injEq, String.ofList_inj] at same
    have alike := binary_codes other.label
    rw [same, binary_codes] at alike
    exact codePoints_inj (List.map_injective_iff.mpr (fun _ _ => Option.some.inj) alike.symm)
  case hex =>
    intro narrow
    have within : ∀ c ∈ subject.label.toList, c.toNat ≤ 0xFF := fun c listed =>
      narrow c.toNat (List.mem_map_of_mem listed)
    rw [String.toList_ofList, toHex_pairs within]
    exact padded_codes (by decide) (by decide) 2 subject.label

/-- Codes of three figures in base sixteen run into each other. -/
example : Editing.toHex "ā\x01".toList = Editing.toHex "\x10ā".toList := by decide

end TextChain
