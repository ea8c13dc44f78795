import TextChain.Proofs.LoneSteps
import TextChain.Proofs.PatternLanguages

/-!
Strong passwords. The rule asks for a length and for characters of four kinds, wherever they stand. The
pattern of the step looks ahead for each kind and then takes the characters, and it does all of this along
one line: a line feed is no character to it. So a text of several lines is no strong password, whatever it
has in it.
-/

namespace TextChain

variable {chance : Edit.Chance}

/-- Eight characters or more, among them a small letter, a capital and a digit of ASCII, and one that is no
word character of ASCII. -/
structure Strong (text : List Char) : Prop where
  long : 8 ≤ text.length
  small : ∃ c ∈ text, Ascii.isLower c = true
  capital : ∃ c ∈ text, Ascii.isUpper c = true
  digit : ∃ c ∈ text, Ascii.isDigit c = true
  other : ∃ c ∈ text, Ascii.isWord c = false

theorem isStrongPassword_iff {text : List Char} :
    Checking.isStrongPassword text = true ↔ Strong text ∧ '\n' ∉ text := by
  simp only [Checking.isStrongPassword, Bool.and_eq_true, decide_eq_true_eq, List.all_eq_true,
    List.any_eq_true, bne_iff_ne, Bool.not_eq_true']
  constructor
  · rintro ⟨⟨⟨⟨⟨long, line⟩, small⟩, capital⟩, digit⟩, other⟩
    exact ⟨⟨long, small, capital, digit, other⟩, fun feed => line '\n' feed rfl⟩
  · rintro ⟨⟨long, small, capital, digit, other⟩, line⟩
    refine ⟨⟨⟨⟨⟨long, ?_⟩, small⟩, capital⟩, digit⟩, other⟩
    rintro c within rfl
    exact line within

/-! ## The pattern -/

def passwordSource : String :=
  "(?=.*[a-z])(?=.*[A-Z])(?=.*\\d)(?=.*\\W).\x7b8,\x7d"

def downLine (kind : Member) : Node :=
  .ahead false (.concat [.loop .greedy 0 none .any, .set false [kind]])

def passwordPattern : Pattern where
  source := passwordSource.toList
  flags := { ascii := true }
  node := .concat [downLine (.between 'a' 'z'), downLine (.between 'A' 'Z'),
    downLine (.category .digit false), downLine (.category .word true), .loop .greedy 8 none .any]
  groups := 0
  names := []

theorem password_read :
    Pattern.ofText? { ascii := true } passwordSource.toList = .ok passwordPattern := by
  decide +kernel

section Lines
variable {flags : Flags} {text : List Char}

/-- In a text of one line, looking down the line is looking anywhere in the text. -/
theorem found_downLine (closed : flags.dotAll = false) (cased : flags.ignoreCase = false) {kind : Member}
    (line : '\n' ∉ text) :
    (∃ front back, text = front ++ back ∧
      (Node.concat [.loop .greedy 0 none .any, .set false [kind]]).language flags front back) ↔
        ∃ c ∈ text, (kind.charClass flags).accepts c = true := by
  have set_iff (c : Char) : (setClass flags false [kind]).accepts c = (kind.charClass flags).accepts c := by
    simp [setClass_accepts cased]
  constructor
  · rintro ⟨front, back, rfl, taken⟩
    obtain ⟨passed, _, rfl, _, c, rfl, accepted⟩ := language_concat.mp taken
    exact ⟨c, by simp, set_iff c ▸ accepted⟩
  · rintro ⟨c, within, accepted⟩
    obtain ⟨passed, back, rfl⟩ := List.append_of_mem within
    refine ⟨passed ++ [c], back, (List.append_assoc _ [c] _).symm, language_concat.mpr ?_⟩
    refine ⟨passed, [c], rfl, (looped_any closed).mpr ⟨Nat.zero_le _, ?_⟩, c, rfl, ?_⟩
    · exact fun feed => line (List.mem_append_left _ feed)
    · rwa [set_iff]

end Lines

theorem password_kinds (c : Char) :
    ((Member.between 'a' 'z').charClass { ascii := true }).accepts c = Ascii.isLower c ∧
      ((Member.between 'A' 'Z').charClass { ascii := true }).accepts c = Ascii.isUpper c ∧
      ((Member.category .digit false).charClass { ascii := true }).accepts c = Ascii.isDigit c ∧
      ((Member.category .word true).charClass { ascii := true }).accepts c = !Ascii.isWord c := by
  refine ⟨between_accepts rfl _ _ c, between_accepts rfl _ _ c, ?_, ?_⟩
  · exact Bool.bne_false (Ascii.isDigit c)
  · exact Bool.bne_true (Ascii.isWord c)

/-- The pattern fits just the texts that the step takes for strong passwords. -/
theorem passwordPattern_fits (text : List Char) :
    passwordPattern.fits text = Checking.isStrongPassword text := by
  have forward : passwordPattern.node.isForward = true := rfl
  have taken : (Node.concat [.loop .greedy 8 none .any]).language { ascii := true } text [] ↔
      8 ≤ text.length ∧ '\n' ∉ text := looped_any rfl
  have found (line : '\n' ∉ text) (kind : Member) :
      (∃ front back, text = front ++ back ∧
        (Node.concat [.loop .greedy 0 none .any, .set false [kind]]).language { ascii := true } front back) ↔
          ∃ c ∈ text, (kind.charClass { ascii := true }).accepts c = true :=
    found_downLine rfl rfl line
  rw [Bool.eq_iff_iff, Pattern.fits_iff forward, isStrongPassword_iff]
  simp only [passwordPattern, downLine, language_ahead, List.append_nil, taken]
  -- All that is looked for is looked for in the one line that is taken in the end.
  constructor
  · rintro ⟨small, capital, digit, other, long, line⟩
    simp only [found line, password_kinds, Bool.not_eq_true'] at small capital digit other
    exact ⟨⟨long, small, capital, digit, other⟩, line⟩
  · rintro ⟨⟨long, small, capital, digit, other⟩, line⟩
    simp only [found line, password_kinds, Bool.not_eq_true']
    exact ⟨small, capital, digit, other, long, line⟩

/-- A text is taken for a strong password if it keeps the rule and stands on one line, and this is what the
pattern says that the step stands for. So the answer differs from the rule just where a text keeps it and
has a line feed. -/
theorem strong_passwords_keep_to_one_line (chance : Edit.Chance) (subject : Name) :
    ∃ holds : Bool,
      chance.catalogue.answer .assertion "is_strong_password" [] subject.toValue = .ok (.bool holds) ∧
      (∃ pattern, Pattern.ofText? { ascii := true } passwordSource.toList = .ok pattern ∧
        pattern.fits subject.label.toList = holds) ∧
      (holds = true ↔ Strong subject.label.toList ∧ '\n' ∉ subject.label.toList) ∧
      ((holds = true ↔ Strong subject.label.toList) ↔
        ¬ (Strong subject.label.toList ∧ '\n' ∈ subject.label.toList)) := by
  refine ⟨Checking.isStrongPassword subject.label.toList, ?answered, ?pattern, isStrongPassword_iff, ?rule⟩
  case answered =>
    exact answer_textCheck Checking.isStrongPassword rfl subject
  case pattern => exact ⟨passwordPattern, password_read, passwordPattern_fits _⟩
  case rule =>
    rw [isStrongPassword_iff]
    by_cases feed : '\n' ∈ subject.label.toList
    · simp [feed]
    · simp [feed]

example : Checking.isStrongPassword "Passw0rd!".toList = true ∧
    Checking.isStrongPassword "Passw0rd!\n".toList = false := by decide

end TextChain
