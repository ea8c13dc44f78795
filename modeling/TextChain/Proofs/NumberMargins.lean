import TextChain.Proofs.Numerals

/-!
What may stand around a number. The conversion that the step promises to follow passes over the white space
and the line ends of ECMAScript; the step passes over the white space of texts. The two differ in six
characters: the step takes the information separators and the next line for blanks too, but not the mark of
the byte order. Everywhere else they agree.
-/

namespace TextChain

variable {chance : Edit.Chance}

/-! ## Two notions of white space -/

def spaceSeparators : List Span :=
  [⟨32, 32⟩, ⟨160, 160⟩, ⟨5760, 5760⟩, ⟨8192, 8202⟩, ⟨8239, 8239⟩, ⟨8287, 8287⟩, ⟨12288, 12288⟩]

def isEcmaBlank (c : Char) : Bool :=
  ['\t', '\x0b', '\x0c', '\uFEFF', '\n', '\r', '\u2028', '\u2029'].contains c ||
    Span.covers spaceSeparators c.toNat

def isTextSeparator (c : Char) : Bool :=
  Span.covers [⟨28, 31⟩, ⟨133, 133⟩] c.toNat

theorem isEcmaBlank_iff {c : Char} : isEcmaBlank c = true ↔
    c = '\uFEFF' ∨ (isBlank c = true ∧ isTextSeparator c = false) := by
  have point (d : Char) : c = d ↔ c.toNat = d.toNat := Char.toNat_inj.symm
  simp only [isEcmaBlank, isBlank, isTextSeparator, spaceSeparators, List.contains_eq_mem,
    List.mem_cons, List.not_mem_nil, or_false, point, Bool.or_eq_true, decide_eq_true_eq]
  simp [Span.covers]
  omega

/-- A character that some numeral has. -/
def OccursInNumeral (c : Char) : Prop := ∃ text, Numeral text ∧ c ∈ text

theorem numeralChar_range {c : Char} (plain : isNumeralChar c = true) : '+' ≤ c ∧ c ≤ 'z' := by
  simp only [isNumeralChar, Bool.or_eq_true, beq_iff_eq] at plain
  rcases plain with ((sort | rfl) | rfl) | rfl
  · obtain ⟨least, most⟩ := letterOrDigit_range sort
    exact ⟨Char.le_trans (by decide) least, most⟩
  · decide
  · decide
  · decide

theorem occurs_bare {c : Char} (occurs : OccursInNumeral c) :
    isBlank c = false ∧ isTextSeparator c = false ∧ c ≠ '\uFEFF' := by
  obtain ⟨text, numeral, within⟩ := occurs
  obtain ⟨least, most⟩ := numeralChar_range (numeral.plain c within)
  have above : 43 ≤ c.toNat := least
  have below : c.toNat ≤ 122 := most
  refine ⟨?_, ?_, ?_⟩
  · simp [isBlank, Span.covers]
    omega
  · simp [isTextSeparator, Span.covers]
    omega
  · rintro rfl
    exact absurd below (by decide)

/-! ## Numbers between blanks -/

section Margins
variable {text : List Char}

theorem isNumber_congr {other : List Char} (same : trim text = trim other) :
    Checking.isNumber text = Checking.isNumber other := by
  rw [Checking.isNumber, Checking.isNumber, same]

theorem number_chars (number : Checking.isNumber text = true) :
    ∀ c ∈ text, isBlank c = true ∨ OccursInNumeral c := by
  obtain ⟨core, ⟨⟨front, back, rfl, before, behind⟩, _⟩, either⟩ := isNumber_iff.mp number
  intro c within
  rcases List.mem_append.mp within with inside | last
  · rcases List.mem_append.mp inside with first | middle
    · exact Or.inl (before c first)
    · rcases either with rfl | numeral
      · cases middle
      · exact Or.inr ⟨core, numeral, middle⟩
  · exact Or.inl (behind c last)

theorem number_markless (number : Checking.isNumber text = true) : '\uFEFF' ∉ text := by
  intro within
  rcases number_chars number _ within with blank | occurs
  · exact absurd blank (by decide)
  · exact (occurs_bare occurs).2.2 rfl

theorem trim_ecma (markless : '\uFEFF' ∉ text) : trim (trimBy isEcmaBlank text) = trim text := by
  apply trimBy_before
  intro c within blank
  rcases isEcmaBlank_iff.mp blank with rfl | ⟨blank, _⟩
  · exact absurd within markless
  · exact blank

theorem isNumber_ecma : Checking.isNumber text = true ↔
    Checking.isNumber (trimBy isEcmaBlank text) = true ∧ '\uFEFF' ∉ text := by
  constructor
  · intro number
    have markless := number_markless number
    exact ⟨isNumber_congr (trim_ecma markless) ▸ number, markless⟩
  · rintro ⟨number, markless⟩
    exact isNumber_congr (trim_ecma markless) ▸ number

theorem edge_occurs (number : Checking.isNumber text = true) {c : Char}
    (edge : c ∈ edges (trimBy isEcmaBlank text)) :
    OccursInNumeral c ↔ isTextSeparator c = false := by
  constructor
  · exact fun occurs => (occurs_bare occurs).2.1
  · intro apart
    have kept : c ∈ text := by
      obtain ⟨front, back, whole, _⟩ := trimBy_margins isEcmaBlank text
      rw [whole]
      simp [edges_within edge]
    have bare : ¬ isEcmaBlank c = true := by
      rw [(trims_trimBy isEcmaBlank text).edges c edge]
      decide
    rcases number_chars number c kept with blank | occurs
    · exact absurd (isEcmaBlank_iff.mpr (Or.inr ⟨blank, apart⟩)) bare
    · exact occurs

/-- Exactly the texts that convert by the rules of ECMAScript are numbers here, but for the six
characters. -/
theorem isNumber_converts :
    (Checking.isNumber text = true ∧
      ∀ c ∈ edges (trimBy isEcmaBlank text), isTextSeparator c = false) ↔
    (trimBy isEcmaBlank text = [] ∨ Numeral (trimBy isEcmaBlank text)) ∧ '\uFEFF' ∉ text := by
  constructor
  · rintro ⟨number, apart⟩
    have markless := number_markless number
    refine ⟨?_, markless⟩
    -- The ends belong to a numeral, so that trimming once more takes nothing away.
    have bare : trim (trimBy isEcmaBlank text) = trimBy isEcmaBlank text := by
      apply trimBy_iff.mpr
      apply trims_bare
      intro c edge
      exact (occurs_bare ((edge_occurs number edge).mpr (apart c edge))).1
    obtain ⟨core, trims, either⟩ := isNumber_iff.mp number
    have same : trimBy isEcmaBlank text = core := by
      rw [← bare, trim_ecma markless]
      exact trimBy_iff.mpr trims
    rwa [same]
  · rintro ⟨either, markless⟩
    -- Neither sort of blank occurs in a numeral, so what is left is trimmed by both notions.
    have inner : ∀ c ∈ edges (trimBy isEcmaBlank text), OccursInNumeral c := by
      intro c edge
      rcases either with empty | numeral
      · rw [empty] at edge
        cases edge
      · exact ⟨_, numeral, edges_within edge⟩
    have trims : Trims isBlank (trimBy isEcmaBlank text) (trimBy isEcmaBlank text) :=
      trims_bare fun c edge => (occurs_bare (inner c edge)).1
    have number := isNumber_ecma.mpr ⟨isNumber_iff.mpr ⟨_, trims, either⟩, markless⟩
    exact ⟨number, fun c edge => (occurs_bare (inner c edge)).2.1⟩

end Margins

def testNumber (chance : Edit.Chance) (subject : Name) : Outcome Value :=
  chance.catalogue.answer .assertion "is_number_convertible" [] subject.toValue

theorem testNumber_answer (subject : Name) :
    testNumber chance subject = .ok (.bool (Checking.isNumber subject.label.toList)) :=
  number_answers rfl subject

/-- The answer for a text is the one for what ECMAScript leaves of it, unless that is a number and the text
has a mark of the byte order. Where the answer is yes, what is left begins and ends with characters of a
numeral, unless it does so with a text separator. But for these, the answer is yes just where nothing or a
numeral is left. -/
theorem margins_differ_in_six_characters (chance : Edit.Chance) (subject : Name) :
    ∃ (core : List Char) (holds inner : Bool),
      Trims isEcmaBlank subject.label.toList core ∧
      testNumber chance subject = .ok (.bool holds) ∧
      testNumber chance (.text (String.ofList core)) = .ok (.bool inner) ∧
      (holds = inner ↔ ¬ (inner = true ∧ '\uFEFF' ∈ subject.label.toList)) ∧
      (holds = true → ∀ c ∈ edges core, OccursInNumeral c ↔ isTextSeparator c = false) ∧
      ((holds = true ∧ ∀ c ∈ edges core, isTextSeparator c = false) ↔
        (core = [] ∨ Numeral core) ∧ '\uFEFF' ∉ subject.label.toList) := by
  refine ⟨_, _, _, trims_trimBy isEcmaBlank subject.label.toList, testNumber_answer subject,
    testNumber_answer _, ?agree, fun number c edge => edge_occurs number edge, isNumber_converts⟩
  case agree =>
    have inner : (Name.text (String.ofList (trimBy isEcmaBlank subject.label.toList))).label.toList =
        trimBy isEcmaBlank subject.label.toList := String.toList_ofList
    rw [Bool.eq_iff_iff, isNumber_ecma, inner]
    constructor
    · exact fun agree both => (agree.mpr both.1).2 both.2
    · exact fun apart => ⟨And.left, fun number => ⟨number, fun mark => apart ⟨number, mark⟩⟩⟩

/-- A mark of the byte order in front of a digit is refused, and an information separator is not. -/
example : Checking.isNumber "\uFEFF1".toList = false ∧ Checking.isNumber "\x1c1".toList = true := by
  decide

end TextChain
