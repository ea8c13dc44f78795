import TextChain.Proofs.Numerals
import TextChain.Proofs.PatternLanguages

/-!
The two patterns that numbers are tested with. A numeral is what one of them fits: the pattern of decimals
tries digits before a lone point and goes back from an exponent that does not end, the other one tells the
bases apart by the mark behind the zero. The recognition by one scan accepts the same texts.
-/

namespace TextChain

variable {chance : Edit.Chance}

/-! ## Parts -/

def digitMembers : List Member := [.between '0' '9']

def eitherNode (first second : Char) : Node := .set false [.point first.toNat, .point second.toNat]

def signNode : Node := .loop .greedy 0 (some 1) (eitherNode '+' '-')

/-- Digits, an optional point and optional digits, or else a point with digits. -/
def significandNode : Node :=
  .choice
    (.concat [.loop .greedy 1 none (.set false digitMembers), .loop .greedy 0 (some 1) (.letter '.'.toNat),
      .loop .greedy 0 none (.set false digitMembers)])
    (.concat (letterNodes ['.'] ++ [.loop .greedy 1 none (.set false digitMembers)]))

def exponentNode : Node :=
  .loop .greedy 0 (some 1)
    (.concat [eitherNode 'e' 'E', signNode, .loop .greedy 1 none (.set false digitMembers)])

def baseNode (small capital : Char) (members : List Member) : Node :=
  .concat [eitherNode small capital, .loop .greedy 1 none (.set false members)]

section Parts
variable {text rest : List Char}

theorem digitMembers_accept (c : Char) :
    (setClass {} false digitMembers).accepts c = Ascii.isDigit c := by
  have cased : ({} : Flags).ignoreCase = false := rfl
  simp only [setClass_accepts cased, digitMembers, List.any_cons, List.any_nil, Bool.or_false,
    between_accepts cased]
  rfl

theorem figures_set {negated : Bool} {members : List Member} {kind : Char → Bool}
    (same : ∀ c, (setClass {} negated members).accepts c = kind c) :
    (Node.loop .greedy 1 none (.set negated members)).language {} text rest ↔ Figures kind text := by
  rw [looped_set same]
  exact and_congr_left' List.length_pos_iff

theorem language_either {first second : Char} :
    (eitherNode first second).language {} text rest ↔ text = [first] ∨ text = [second] := by
  have cased : ({} : Flags).ignoreCase = false := rfl
  have taken (c : Char) :
      (setClass {} false [.point first.toNat, .point second.toNat]).accepts c = true ↔
        c = first ∨ c = second := by
    simp only [setClass_accepts cased, List.any_cons, List.any_nil, Bool.or_false, point_accepts cased,
      Bool.or_eq_true, beq_iff_eq]
  constructor
  · rintro ⟨c, rfl, accepted⟩
    simpa using (taken c).mp accepted
  · rintro (rfl | rfl)
    · exact ⟨first, rfl, (taken first).mpr (Or.inl rfl)⟩
    · exact ⟨second, rfl, (taken second).mpr (Or.inr rfl)⟩

theorem language_sign : signNode.language {} text rest ↔ Sign text := by
  have sign : signNode.language {} text rest ↔ text = [] ∨ text = ['+'] ∨ text = ['-'] :=
    looped_once.trans (or_congr_right language_either)
  rw [sign]
  constructor
  · rintro (rfl | rfl | rfl)
    · exact .absent
    · exact .plus
    · exact .minus
  · rintro (_ | _ | _)
    · exact Or.inl rfl
    · exact Or.inr (Or.inl rfl)
    · exact Or.inr (Or.inr rfl)

theorem language_significand : significandNode.language {} text rest ↔ Significand text := by
  have point (text rest : List Char) :
      (Node.loop .greedy 0 (some 1) (.letter '.'.toNat)).language {} text rest ↔ text = [] ∨ text = ['.'] :=
    looped_once.trans (or_congr_right language_letter)
  simp only [significandNode, language_choice, @language_concat _ _ _ _ (_ :: _), language_word, concat_single,
    figures_set digitMembers_accept, point, looped_set digitMembers_accept, Nat.zero_le, true_and]
  constructor
  · rintro (⟨figures, _, rfl, given, _, part, rfl, rfl | rfl, digits⟩ | ⟨part, rfl, given⟩)
    · exact .whole ⟨by simp [given.1], List.forall_mem_append.mpr ⟨given.2, digits⟩⟩
    · exact .pointed given digits
    · exact .fraction given
  · rintro (given | ⟨given, digits⟩ | given)
    · exact Or.inl ⟨_, [], (List.append_nil _).symm, given, [], [], rfl, Or.inl rfl, nofun⟩
    · exact Or.inl ⟨_, _, rfl, given, ['.'], _, rfl, Or.inr rfl, digits⟩
    · exact Or.inr ⟨_, rfl, given⟩

theorem language_exponent : exponentNode.language {} text rest ↔ Exponent text := by
  have scaled : exponentNode.language {} text rest ↔ text = [] ∨ _ := looped_once
  rw [scaled]
  simp only [@language_concat _ _ _ _ (_ :: _), language_either, language_sign, concat_single,
    figures_set digitMembers_accept]
  constructor
  · rintro (rfl | ⟨_, _, rfl, rfl | rfl, sign, figures, rfl, signed, given⟩)
    · exact .absent
    · show Exponent ('e' :: (sign ++ figures))
      exact .written (Or.inl rfl) signed given
    · show Exponent ('E' :: (sign ++ figures))
      exact .written (Or.inr rfl) signed given
  · rintro (_ | ⟨rfl | rfl, signed, given⟩)
    · exact Or.inl rfl
    · exact Or.inr ⟨['e'], _, rfl, Or.inl rfl, _, _, rfl, signed, given⟩
    · exact Or.inr ⟨['E'], _, rfl, Or.inr rfl, _, _, rfl, signed, given⟩

theorem language_base {small capital : Char} {members : List Member} {digit : Char → Bool}
    (same : ∀ c, (setClass {} false members).accepts c = digit c) :
    (baseNode small capital members).language {} text rest ↔
      ∃ mark figures, (mark = small ∨ mark = capital) ∧ Figures digit figures ∧ text = mark :: figures := by
  simp only [baseNode, @language_concat _ _ _ _ (_ :: _), language_either, concat_single, figures_set same]
  constructor
  · rintro ⟨_, figures, rfl, rfl | rfl, given⟩
    · exact ⟨_, figures, Or.inl rfl, given, rfl⟩
    · exact ⟨_, figures, Or.inr rfl, given, rfl⟩
  · rintro ⟨mark, figures, marked, given, rfl⟩
    exact ⟨[mark], figures, rfl, by simpa using marked, given⟩

end Parts

/-! ## Decimals -/

def decimalSource : String :=
  "[+-]?(?:(?:[0-9]+\\.?[0-9]*|\\.[0-9]+)(?:[eE][+-]?[0-9]+)?|Infinity)"

def decimalPattern : Pattern where
  source := decimalSource.toList
  flags := {}
  node := .concat [signNode,
    .choice (.concat [significandNode, exponentNode]) (.concat (letterNodes "Infinity".toList))]
  groups := 0
  names := []

theorem decimal_read : Pattern.ofText? {} decimalSource.toList = .ok decimalPattern := by
  decide +kernel

theorem decimalPattern_fits {text : List Char} : decimalPattern.fits text = true ↔
    ∃ sign body, Sign sign ∧ UnsignedDecimal body ∧ text = sign ++ body := by
  have forward : decimalPattern.node.isForward = true := rfl
  have word (text rest : List Char) :
      (Node.concat (letterNodes "Infinity".toList)).language {} text rest ↔ text = "Infinity".toList := by
    rw [← List.append_nil (letterNodes _), language_word]
    simp [Node.concat, Node.language]
  have unsigned (text rest : List Char) :
      (Node.concat [.choice (.concat [significandNode, exponentNode])
        (.concat (letterNodes "Infinity".toList))]).language {} text rest ↔ UnsignedDecimal text := by
    rw [concat_single, language_choice, word, language_concat]
    simp only [language_significand, concat_single, language_exponent]
    constructor
    · rintro (⟨significand, exponent, rfl, significant, scaled⟩ | rfl)
      · exact .figures significant scaled
      · exact .infinity
    · rintro (_ | ⟨significant, scaled⟩)
      · exact Or.inr rfl
      · exact Or.inl ⟨_, _, rfl, significant, scaled⟩
  rw [Pattern.fits_iff forward]
  simp only [decimalPattern, @language_concat _ _ _ _ (_ :: _), language_sign, unsigned]
  constructor
  · rintro ⟨sign, body, rfl, signed, decimal⟩
    exact ⟨sign, body, signed, decimal, rfl⟩
  · rintro ⟨sign, body, signed, decimal, rfl⟩
    exact ⟨sign, body, rfl, signed, decimal⟩

/-! ## Other bases -/

def radixSource : String := "0[xX][0-9a-fA-F]+|0[oO][0-7]+|0[bB][01]+"

def hexMembers : List Member := digitMembers ++ [.between 'a' 'f', .between 'A' 'F']

def octalMembers : List Member := [.between '0' '7']

def binaryMembers : List Member := [.point '0'.toNat, .point '1'.toNat]

/-- The alternatives share their first letter, so it is read once in front of them. -/
def radixPattern : Pattern where
  source := radixSource.toList
  flags := {}
  node := .concat (letterNodes ['0'] ++ [.choice (baseNode 'x' 'X' hexMembers)
    (.choice (baseNode 'o' 'O' octalMembers) (baseNode 'b' 'B' binaryMembers))])
  groups := 0
  names := []

theorem radix_read : Pattern.ofText? {} radixSource.toList = .ok radixPattern := by
  decide +kernel

section Members
variable (c : Char)

theorem hexMembers_accept : (setClass {} false hexMembers).accepts c = Ascii.isHexDigit c := by
  have cased : ({} : Flags).ignoreCase = false := rfl
  simp only [setClass_accepts cased, hexMembers, digitMembers, List.cons_append, List.nil_append,
    List.any_cons, List.any_nil, Bool.or_false, between_accepts cased, ← Bool.or_assoc]
  rfl

theorem octalMembers_accept : (setClass {} false octalMembers).accepts c = Ascii.isOctalDigit c := by
  have cased : ({} : Flags).ignoreCase = false := rfl
  simp only [setClass_accepts cased, octalMembers, List.any_cons, List.any_nil, Bool.or_false,
    between_accepts cased]
  rfl

theorem binaryMembers_accept : (setClass {} false binaryMembers).accepts c = Ascii.isBinaryDigit c := by
  have cased : ({} : Flags).ignoreCase = false := rfl
  simp only [setClass_accepts cased, binaryMembers, List.any_cons, List.any_nil, Bool.or_false,
    point_accepts cased]
  rfl

end Members

theorem radixPattern_fits {text : List Char} : radixPattern.fits text = true ↔ RadixInteger text := by
  have forward : radixPattern.node.isForward = true := rfl
  rw [Pattern.fits_iff forward]
  simp only [radixPattern, language_word, concat_single, language_choice, language_base hexMembers_accept,
    language_base octalMembers_accept, language_base binaryMembers_accept]
  constructor
  · rintro ⟨_, rfl, ⟨mark, figures, either, given, rfl⟩ | ⟨mark, figures, either, given, rfl⟩ |
      ⟨mark, figures, either, given, rfl⟩⟩
    · exact .written (.sixteen either) given
    · exact .written (.eight either) given
    · exact .written (.two either) given
  · rintro ⟨either | either | either, given⟩
    · exact ⟨_, rfl, Or.inl ⟨_, _, either, given, rfl⟩⟩
    · exact ⟨_, rfl, Or.inr (Or.inl ⟨_, _, either, given, rfl⟩)⟩
    · exact ⟨_, rfl, Or.inr (Or.inr ⟨_, _, either, given, rfl⟩)⟩

/-! ## Numbers -/

theorem isNumber_fits (text : List Char) :
    Checking.isNumber text =
      ((trim text).isEmpty || decimalPattern.fits (trim text) || radixPattern.fits (trim text)) := by
  have decimal : Checking.isDecimal (trim text) = decimalPattern.fits (trim text) := by
    rw [Bool.eq_iff_iff, isDecimal_iff, decimalPattern_fits]
  have radix : Checking.isRadixInteger (trim text) = radixPattern.fits (trim text) := by
    rw [Bool.eq_iff_iff, isRadixInteger_iff, radixPattern_fits]
  rw [Checking.isNumber, decimal, radix]

/-- A text converts to a number just if white space is all it has around nothing or a numeral, which is what
the two patterns say that both steps stand for. Numerals have no characters but ASCII letters and digits,
signs and points, and no sign in a base other than ten; a lone sign or point and short words are none. -/
theorem numbers_are_numerals (chance : Edit.Chance) (subject : Name) :
    (∃ holds : Bool,
      chance.catalogue.answer .assertion "is_number_convertible" [] subject.toValue =
        .ok (.bool holds) ∧
      chance.catalogue.answer .assertion "is_numeric" [] subject.toValue = .ok (.bool holds) ∧
      Checking.isNumber subject.label.toList = holds ∧
      (∃ decimal radix,
        Pattern.ofText? {} decimalSource.toList = .ok decimal ∧
        Pattern.ofText? {} radixSource.toList = .ok radix ∧
        holds = ((trim subject.label.toList).isEmpty || decimal.fits (trim subject.label.toList) ||
          radix.fits (trim subject.label.toList))) ∧
      (holds = true ↔
        ∃ core, Trims isBlank subject.label.toList core ∧ (core = [] ∨ Numeral core))) ∧
    (∀ text, Numeral text → Plain text) ∧
    (∀ sign text, Sign sign → sign ≠ [] → RadixInteger text → ¬ Numeral (sign ++ text)) ∧
    ∀ stray ∈ [".", "+", "-", "inf", "nan"], ¬ Numeral stray.toList := by
  refine ⟨⟨_, number_answers rfl subject, number_answers rfl subject, rfl,
    ⟨_, _, decimal_read, radix_read, isNumber_fits _⟩, isNumber_iff⟩,
    fun _ numeral => numeral.plain, fun _ _ => signed_radix_strays, ?strays⟩
  case strays =>
    intro stray listed
    rw [← numeral_iff, Bool.not_eq_true]
    revert stray
    decide

end TextChain
