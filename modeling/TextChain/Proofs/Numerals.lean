import TextChain.Checking
import TextChain.Proofs.LoneSteps
import TextChain.Proofs.Trimming

/-!
Texts that convert to numbers. Between white space there may be nothing, or a numeral: a decimal or the
word for infinity, both with an optional sign, or a whole number in base sixteen, eight or two without a
sign. Nothing else converts.
-/

namespace TextChain

variable {chance : Edit.Chance}

/-! ## Grammar -/

def Figures (digit : Char → Bool) (text : List Char) : Prop :=
  text ≠ [] ∧ ∀ c ∈ text, digit c = true

inductive Sign : List Char → Prop
  | absent : Sign []
  | plus : Sign ['+']
  | minus : Sign ['-']

/-- Digits with an optional point among or after them, or a point with digits after it. -/
inductive Significand : List Char → Prop
  | whole {figures : List Char} (given : Figures Ascii.isDigit figures) : Significand figures
  | pointed {figures part : List Char} (given : Figures Ascii.isDigit figures)
      (digits : ∀ c ∈ part, Ascii.isDigit c = true) : Significand (figures ++ '.' :: part)
  | fraction {part : List Char} (given : Figures Ascii.isDigit part) : Significand ('.' :: part)

inductive Exponent : List Char → Prop
  | absent : Exponent []
  | written {letter : Char} {sign figures : List Char} (small : letter = 'e' ∨ letter = 'E')
      (signed : Sign sign) (given : Figures Ascii.isDigit figures) :
      Exponent (letter :: (sign ++ figures))

inductive UnsignedDecimal : List Char → Prop
  | infinity : UnsignedDecimal "Infinity".toList
  | figures {significand exponent : List Char} (significant : Significand significand)
      (scaled : Exponent exponent) : UnsignedDecimal (significand ++ exponent)

/-- The marks of the bases other than ten, with the digits of each base. -/
inductive Base : Char → (Char → Bool) → Prop
  | sixteen {mark : Char} (either : mark = 'x' ∨ mark = 'X') : Base mark Ascii.isHexDigit
  | eight {mark : Char} (either : mark = 'o' ∨ mark = 'O') : Base mark Ascii.isOctalDigit
  | two {mark : Char} (either : mark = 'b' ∨ mark = 'B') : Base mark Ascii.isBinaryDigit

inductive RadixInteger : List Char → Prop
  | written {mark : Char} {digit : Char → Bool} {figures : List Char} (base : Base mark digit)
      (given : Figures digit figures) : RadixInteger ('0' :: mark :: figures)

inductive Numeral : List Char → Prop
  | decimal {sign body : List Char} (signed : Sign sign) (decimal : UnsignedDecimal body) :
      Numeral (sign ++ body)
  | radix {text : List Char} (integer : RadixInteger text) : Numeral text

/-! ## Recognition -/

section Recognition
variable {text : List Char}

theorem isRunOf_iff {digit : Char → Bool} : Checking.isRunOf digit text = true ↔ Figures digit text := by
  simp [Checking.isRunOf, Figures]

theorem sign_dropSign (text : List Char) : ∃ sign, Sign sign ∧ text = sign ++ Checking.dropSign text := by
  unfold Checking.dropSign
  split
  · exact ⟨['+'], .plus, rfl⟩
  · exact ⟨['-'], .minus, rfl⟩
  · exact ⟨[], .absent, rfl⟩

theorem dropSign_iff {body : List Char → Prop}
    (bare : ∀ text, body text → Checking.dropSign text = text) :
    body (Checking.dropSign text) ↔ ∃ sign rest, Sign sign ∧ body rest ∧ text = sign ++ rest := by
  constructor
  · intro holds
    obtain ⟨sign, signed, whole⟩ := sign_dropSign text
    exact ⟨sign, _, signed, holds, whole⟩
  · rintro ⟨sign, rest, signed, holds, rfl⟩
    have dropped : Checking.dropSign (sign ++ rest) = rest := by
      cases signed with
      | absent => exact bare rest holds
      | plus => rfl
      | minus => rfl
    rwa [dropped]

theorem dropSign_bare (first : ∀ c, text.head? = some c → Ascii.isDigit c = true ∨ c = '.') :
    Checking.dropSign text = text := by
  unfold Checking.dropSign
  split
  · exact absurd (first '+' rfl) (by decide)
  · exact absurd (first '-' rfl) (by decide)
  · rfl

theorem figures_bare (given : Figures Ascii.isDigit text) : Checking.dropSign text = text :=
  dropSign_bare fun c first => Or.inl (given.2 c (List.mem_of_head? first))

theorem isExponent_iff : Checking.isExponent text = true ↔ Exponent text := by
  cases text with
  | nil => exact ⟨fun _ => .absent, fun _ => rfl⟩
  | cons letter rest =>
      rw [Checking.isExponent, Bool.and_eq_true, isRunOf_iff, dropSign_iff fun _ => figures_bare,
        Bool.or_eq_true, beq_iff_eq, beq_iff_eq]
      constructor
      · rintro ⟨small, sign, figures, signed, given, rfl⟩
        exact .written small signed given
      · intro written
        cases written with
        | written small signed given => exact ⟨small, _, _, signed, given, rfl⟩

theorem digits_taken {digit : Char → Bool} {figures rest : List Char}
    (digits : ∀ c ∈ figures, digit c = true) (stop : ∀ c, rest.head? = some c → digit c = false) :
    (figures ++ rest).takeWhile digit = figures := by
  have ended : rest.takeWhile digit = [] := by
    cases rest with
    | nil => rfl
    | cons c rest => simp [stop c rfl]
  rw [List.takeWhile_append_of_pos digits, ended, List.append_nil]

theorem digits_left {digit : Char → Bool} {figures rest : List Char}
    (digits : ∀ c ∈ figures, digit c = true) (stop : ∀ c, rest.head? = some c → digit c = false) :
    (figures ++ rest).dropWhile digit = rest := by
  rw [List.dropWhile_append_of_pos digits, dropWhile_stays stop]

theorem exponent_stops (scaled : Exponent text) : ∀ c, text.head? = some c → Ascii.isDigit c = false := by
  rintro c first
  cases scaled with
  | absent => cases first
  | written small signed given =>
      cases first
      rcases small with rfl | rfl <;> rfl

theorem digits_split (text : List Char) :
    ∃ figures rest, text = figures ++ rest ∧ (∀ c ∈ figures, Ascii.isDigit c = true) ∧
      ∀ c, rest.head? = some c → Ascii.isDigit c = false := by
  refine ⟨text.takeWhile Ascii.isDigit, text.dropWhile Ascii.isDigit, ?_, ?_, ?_⟩
  · exact List.takeWhile_append_dropWhile.symm
  · exact fun c => List.mem_takeWhile_imp
  · exact fun c => dropWhile_first

theorem isUnsignedDecimal_pointed {figures rest : List Char}
    (digits : ∀ c ∈ figures, Ascii.isDigit c = true) :
    Checking.isUnsignedDecimal (figures ++ '.' :: rest) =
      (!(figures.isEmpty && (rest.takeWhile Ascii.isDigit).isEmpty) &&
        Checking.isExponent (rest.dropWhile Ascii.isDigit)) := by
  have stop : ∀ c, ('.' :: rest).head? = some c → Ascii.isDigit c = false := by
    rintro c ⟨⟩
    rfl
  rw [Checking.isUnsignedDecimal, digits_taken digits stop, digits_left digits stop]
  rfl

theorem isUnsignedDecimal_whole {figures rest : List Char}
    (digits : ∀ c ∈ figures, Ascii.isDigit c = true)
    (stop : ∀ c, rest.head? = some c → Ascii.isDigit c = false) (pointless : rest.head? ≠ some '.') :
    Checking.isUnsignedDecimal (figures ++ rest) =
      (!figures.isEmpty && Checking.isExponent rest) := by
  rw [Checking.isUnsignedDecimal, digits_taken digits stop, digits_left digits stop]
  split
  next => exact absurd rfl pointless
  next => rfl

theorem exponent_pointless (scaled : Exponent text) : text.head? ≠ some '.' := by
  intro point
  cases scaled with
  | absent => cases point
  | written small signed given =>
      cases point
      exact absurd small (by decide)

theorem isUnsignedDecimal_iff : Checking.isUnsignedDecimal text = true ↔
    ∃ significand exponent, Significand significand ∧ Exponent exponent ∧
      text = significand ++ exponent := by
  constructor
  · intro accepted
    obtain ⟨figures, rest, rfl, digits, stop⟩ := digits_split text
    by_cases pointed : rest.head? = some '.'
    · obtain ⟨rest, rfl⟩ := List.head?_eq_some_iff.mp pointed
      obtain ⟨part, exponent, rfl, more, ended⟩ := digits_split rest
      rw [isUnsignedDecimal_pointed digits, digits_taken more ended, digits_left more ended,
        Bool.and_eq_true, isExponent_iff] at accepted
      obtain ⟨some, scaled⟩ := accepted
      -- The point needs a digit on one side: it may be in front only if there is a part behind.
      by_cases bare : figures = []
      · subst bare
        have given : Figures Ascii.isDigit part := ⟨by simpa using some, more⟩
        exact ⟨'.' :: part, exponent, .fraction given, scaled, rfl⟩
      · exact ⟨figures ++ '.' :: part, exponent, .pointed ⟨bare, digits⟩ more, scaled, by simp⟩
    · rw [isUnsignedDecimal_whole digits stop pointed, Bool.and_eq_true, isExponent_iff] at accepted
      exact ⟨figures, rest, .whole ⟨by simpa using accepted.1, digits⟩, accepted.2, rfl⟩
  · rintro ⟨significand, exponent, significant, scaled, rfl⟩
    have stop := exponent_stops scaled
    have ended := isExponent_iff.mpr scaled
    cases significant with
    | whole given =>
        rw [isUnsignedDecimal_whole given.2 stop (exponent_pointless scaled), ended]
        simp [given.1]
    | pointed given digits =>
        rw [List.append_assoc, List.cons_append, isUnsignedDecimal_pointed given.2]
        simp [digits_left digits stop, ended, given.1]
    | @fraction part given =>
        have bare : Checking.isUnsignedDecimal ([] ++ '.' :: (part ++ exponent)) = _ :=
          isUnsignedDecimal_pointed nofun
        have some : part.isEmpty = false := by simpa using given.1
        rw [digits_taken given.2 stop, digits_left given.2 stop, ended, some] at bare
        exact bare

theorem significand_first (significant : Significand text) (rest : List Char) (c : Char)
    (first : (text ++ rest).head? = some c) : Ascii.isDigit c = true ∨ c = '.' := by
  have begun {figures rest : List Char} (given : Figures Ascii.isDigit figures)
      (first : (figures ++ rest).head? = some c) : Ascii.isDigit c = true := by
    cases figures with
    | nil => exact absurd rfl given.1
    | cons d more =>
        cases first
        exact given.2 c List.mem_cons_self
  cases significant with
  | whole given => exact Or.inl (begun given first)
  | pointed given digits =>
      rw [List.append_assoc] at first
      exact Or.inl (begun given first)
  | fraction given =>
      cases first
      exact Or.inr rfl

theorem unsigned_bare (unsigned : UnsignedDecimal text) : Checking.dropSign text = text := by
  cases unsigned with
  | infinity => rfl
  | figures significant scaled => exact dropSign_bare (significand_first significant _)

theorem isDecimal_iff : Checking.isDecimal text = true ↔
    ∃ sign body, Sign sign ∧ UnsignedDecimal body ∧ text = sign ++ body := by
  have body_iff (body : List Char) :
      (body == "Infinity".toList || Checking.isUnsignedDecimal body) = true ↔ UnsignedDecimal body := by
    rw [Bool.or_eq_true, beq_iff_eq, isUnsignedDecimal_iff]
    constructor
    · rintro (rfl | ⟨significand, exponent, significant, scaled, rfl⟩)
      · exact .infinity
      · exact .figures significant scaled
    · intro unsigned
      cases unsigned with
      | infinity => exact Or.inl rfl
      | figures significant scaled => exact Or.inr ⟨_, _, significant, scaled, rfl⟩
  rw [Checking.isDecimal, body_iff, dropSign_iff fun _ => unsigned_bare]

theorem isRadixInteger_iff : Checking.isRadixInteger text = true ↔ RadixInteger text := by
  constructor
  · intro accepted
    unfold Checking.isRadixInteger at accepted
    split at accepted
    next mark rest =>
      by_cases hex : (mark == 'x' || mark == 'X') = true
      · rw [if_pos hex, isRunOf_iff] at accepted
        exact .written (.sixteen (by simpa using hex)) accepted
      · rw [if_neg hex] at accepted
        by_cases octal : (mark == 'o' || mark == 'O') = true
        · rw [if_pos octal, isRunOf_iff] at accepted
          exact .written (.eight (by simpa using octal)) accepted
        · rw [if_neg octal] at accepted
          by_cases binary : (mark == 'b' || mark == 'B') = true
          · rw [if_pos binary, isRunOf_iff] at accepted
            exact .written (.two (by simpa using binary)) accepted
          · rw [if_neg binary] at accepted
            cases accepted
    next => cases accepted
  · rintro ⟨base, given⟩
    cases base with
    | sixteen either => rcases either with rfl | rfl <;> exact isRunOf_iff.mpr given
    | eight either => rcases either with rfl | rfl <;> exact isRunOf_iff.mpr given
    | two either => rcases either with rfl | rfl <;> exact isRunOf_iff.mpr given

theorem numeral_iff :
    (Checking.isDecimal text || Checking.isRadixInteger text) = true ↔ Numeral text := by
  rw [Bool.or_eq_true, isDecimal_iff, isRadixInteger_iff]
  constructor
  · rintro (⟨sign, body, signed, decimal, rfl⟩ | integer)
    · exact .decimal signed decimal
    · exact .radix integer
  · intro numeral
    cases numeral with
    | decimal signed decimal => exact Or.inl ⟨_, _, signed, decimal, rfl⟩
    | radix integer => exact Or.inr integer

theorem isNumber_iff : Checking.isNumber text = true ↔
    ∃ core, Trims isBlank text core ∧ (core = [] ∨ Numeral core) := by
  have core_iff : Checking.isNumber text = true ↔ trim text = [] ∨ Numeral (trim text) := by
    rw [Checking.isNumber, Bool.or_assoc, Bool.or_eq_true, numeral_iff, List.isEmpty_iff]
  rw [core_iff]
  constructor
  · exact fun number => ⟨trim text, trims_trimBy isBlank text, number⟩
  · rintro ⟨core, trims, number⟩
    rwa [trim, trimBy_iff.mpr trims]

end Recognition

/-! ## Characters -/

def isNumeralChar (c : Char) : Bool :=
  Ascii.isLetterOrDigit c || c == '+' || c == '-' || c == '.'

def Plain (text : List Char) : Prop := ∀ c ∈ text, isNumeralChar c = true

theorem Plain.append {front back : List Char} (started : Plain front) (ended : Plain back) :
    Plain (front ++ back) := by
  intro c within
  rcases List.mem_append.mp within with first | second
  · exact started c first
  · exact ended c second

theorem Plain.cons {c : Char} {rest : List Char} (first : isNumeralChar c = true) (later : Plain rest) :
    Plain (c :: rest) :=
  List.forall_mem_cons.mpr ⟨first, later⟩

theorem letterOrDigit_range {c : Char} (sort : Ascii.isLetterOrDigit c = true) : '0' ≤ c ∧ c ≤ 'z' := by
  simp only [Ascii.isLetterOrDigit, Ascii.isLetter, Ascii.isUpper, Ascii.isLower, Ascii.isDigit,
    Bool.or_eq_true, Bool.and_eq_true, decide_eq_true_eq] at sort
  rcases sort with (⟨least, most⟩ | ⟨least, most⟩) | ⟨least, most⟩
  · exact ⟨Char.le_trans (by decide) least, Char.le_trans most (by decide)⟩
  · exact ⟨Char.le_trans (by decide) least, most⟩
  · exact ⟨least, Char.le_trans most (by decide)⟩

theorem letterOrDigit_ascii {c : Char} (sort : Ascii.isLetterOrDigit c = true) : c.toNat < 128 :=
  Nat.lt_of_le_of_lt (show c.toNat ≤ 122 from (letterOrDigit_range sort).2) (by decide)

theorem letterOrDigit_plain {c : Char} (sort : Ascii.isLetterOrDigit c = true) :
    isNumeralChar c = true := by
  simp [isNumeralChar, sort]

theorem digit_plain {c : Char} (digit : Ascii.isDigit c = true) : isNumeralChar c = true :=
  letterOrDigit_plain (by simp [Ascii.isLetterOrDigit, digit])

theorem hexDigit_plain {c : Char} (digit : Ascii.isHexDigit c = true) : isNumeralChar c = true := by
  simp only [Ascii.isHexDigit, Bool.or_eq_true, Bool.and_eq_true, decide_eq_true_eq] at digit
  rcases digit with (digit | ⟨least, most⟩) | ⟨least, most⟩
  · exact digit_plain digit
  · have small : c ≤ 'z' := Char.le_trans most (by decide)
    exact letterOrDigit_plain (by simp [Ascii.isLetterOrDigit, Ascii.isLetter, Ascii.isLower, least, small])
  · have capital : c ≤ 'Z' := Char.le_trans most (by decide)
    exact letterOrDigit_plain
      (by simp [Ascii.isLetterOrDigit, Ascii.isLetter, Ascii.isUpper, least, capital])

theorem octalDigit_plain {c : Char} (digit : Ascii.isOctalDigit c = true) : isNumeralChar c = true := by
  simp only [Ascii.isOctalDigit, Bool.and_eq_true, decide_eq_true_eq] at digit
  have most : c ≤ '9' := Char.le_trans digit.2 (by decide)
  exact digit_plain (by simp [Ascii.isDigit, digit.1, most])

theorem binaryDigit_plain {c : Char} (digit : Ascii.isBinaryDigit c = true) :
    isNumeralChar c = true := by
  simp only [Ascii.isBinaryDigit, Bool.or_eq_true, beq_iff_eq] at digit
  rcases digit with rfl | rfl <;> rfl

theorem Figures.plain {digit : Char → Bool} {text : List Char} (given : Figures digit text)
    (each : ∀ c, digit c = true → isNumeralChar c = true) : Plain text :=
  fun c within => each c (given.2 c within)

theorem Sign.plain {text : List Char} (signed : Sign text) : Plain text := by
  cases signed with
  | absent => exact nofun
  | plus => exact .cons rfl nofun
  | minus => exact .cons rfl nofun

theorem Significand.plain {text : List Char} (significant : Significand text) : Plain text := by
  cases significant with
  | whole given => exact given.plain fun _ => digit_plain
  | pointed given digits =>
      exact (given.plain fun _ => digit_plain).append (.cons rfl fun c within => digit_plain (digits c within))
  | fraction given => exact .cons rfl (given.plain fun _ => digit_plain)

theorem Exponent.plain {text : List Char} (scaled : Exponent text) : Plain text := by
  cases scaled with
  | absent => exact nofun
  | @written letter _ _ small signed given =>
      have marked : isNumeralChar letter = true := by
        rcases small with rfl | rfl <;> rfl
      exact .cons marked (signed.plain.append (given.plain fun _ => digit_plain))

theorem UnsignedDecimal.plain {text : List Char} (unsigned : UnsignedDecimal text) : Plain text := by
  cases unsigned with
  | infinity =>
      have spelt : "Infinity".toList.all isNumeralChar = true := by decide
      exact List.all_eq_true.mp spelt
  | figures significant scaled => exact significant.plain.append scaled.plain

theorem Base.plain {mark : Char} {digit : Char → Bool} (base : Base mark digit) :
    isNumeralChar mark = true ∧ ∀ c, digit c = true → isNumeralChar c = true := by
  cases base with
  | sixteen either =>
      refine ⟨?_, fun _ => hexDigit_plain⟩
      rcases either with rfl | rfl <;> rfl
  | eight either =>
      refine ⟨?_, fun _ => octalDigit_plain⟩
      rcases either with rfl | rfl <;> rfl
  | two either =>
      refine ⟨?_, fun _ => binaryDigit_plain⟩
      rcases either with rfl | rfl <;> rfl

theorem RadixInteger.plain {text : List Char} (integer : RadixInteger text) : Plain text := by
  obtain ⟨base, given⟩ := integer
  exact .cons rfl (.cons base.plain.1 (given.plain base.plain.2))

theorem Numeral.plain {text : List Char} (numeral : Numeral text) : Plain text := by
  cases numeral with
  | decimal signed decimal => exact signed.plain.append decimal.plain
  | radix integer => exact integer.plain

/-! ## Asking for numbers -/

theorem figures_name (name : Name) :
    Check.figures name.toValue = .ok (trim name.label.toList) := by
  have stripped : Check.figures name.toValue =
      if (trim name.label.toList).isEmpty then .ok []
      else (Value.ofChars (trim name.label.toList)).subject := by
    simp only [Check.figures, Name.toValue_method, ok_bind]
    rfl
  rw [stripped]
  by_cases empty : (trim name.label.toList).isEmpty = true
  · rw [if_pos empty, List.isEmpty_iff.mp empty]
  · rw [if_neg empty]
    simp [Value.subject, Value.ofChars, Value.writing?]

theorem number_answers {label : String}
    (bound : chance.catalogue.bound? .assertion (.text label) = some Check.isNumber) (subject : Name) :
    chance.catalogue.answer .assertion label [] subject.toValue =
      .ok (.bool (Checking.isNumber subject.label.toList)) := by
  have again : Checking.isNumber (trim subject.label.toList) =
      Checking.isNumber subject.label.toList := by
    rw [Checking.isNumber, Checking.isNumber, trim, trim, trimBy_before fun _ _ blank => blank]
  rw [answer_plainCheck Check.figures Checking.isNumber bound, figures_name]
  exact congrArg (fun holds => Except.ok (Value.bool holds)) again

theorem signed_radix_strays {sign text : List Char} (signed : Sign sign) (some : sign ≠ [])
    (integer : RadixInteger text) : ¬ Numeral (sign ++ text) := by
  obtain ⟨base, given⟩ := integer
  rw [← numeral_iff, Bool.not_eq_true]
  cases signed with
  | absent => exact absurd rfl some
  | plus => cases base <;> next either => rcases either with rfl | rfl <;> rfl
  | minus => cases base <;> next either => rcases either with rfl | rfl <;> rfl

end TextChain
