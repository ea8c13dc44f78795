import Mathlib.Data.List.Palindrome
import TextChain.Proofs.CaseMappings
import TextChain.Proofs.SetPatterns

/-!
Palindromes. The test reads the letters and digits of ASCII, in small letters, and nothing else of a text. So
it does not matter from which end a text is read, nor what other characters stand in it.
-/

namespace TextChain

variable {chance : Edit.Chance}

/-- What is read of a text: its letters and digits of ASCII, in small letters. -/
def readingOf (text : List Char) : List Char :=
  (text.filter Ascii.isLetterOrDigit).map Ascii.toLower

/-- A text into which characters were put that are neither letters nor digits of ASCII. -/
inductive Strewn : List Char → List Char → Prop
  | bare : Strewn [] []
  | kept (c : Char) {text strewn : List Char} (rest : Strewn text strewn) : Strewn (c :: text) (c :: strewn)
  | put {c : Char} {text strewn : List Char} (other : Ascii.isLetterOrDigit c = false)
      (rest : Strewn text strewn) : Strewn text (c :: strewn)

/-! ## Reading -/

section Readings
variable {text strewn : List Char}

theorem isPalindrome_iff : Checking.isPalindrome text = true ↔ (readingOf text).Palindrome := by
  rw [Checking.isPalindrome, beq_iff_eq, List.Palindrome.iff_reverse_eq, eq_comm]
  rfl

theorem readingOf_reverse (text : List Char) : readingOf text.reverse = (readingOf text).reverse := by
  rw [readingOf, List.filter_reverse, List.map_reverse]
  rfl

theorem readingOf_append (front back : List Char) :
    readingOf (front ++ back) = readingOf front ++ readingOf back := by
  rw [readingOf, List.filter_append, List.map_append]
  rfl

theorem Strewn.read (strews : Strewn text strewn) : readingOf strewn = readingOf text := by
  induction strews with
  | bare => rfl
  | kept c rest ih => rw [← List.singleton_append, readingOf_append, ih, ← readingOf_append]; rfl
  | put other rest ih => rwa [readingOf, List.filter_cons_of_neg (by simp [other])]

theorem palindrome_reverse : Checking.isPalindrome text.reverse = Checking.isPalindrome text := by
  have turned : (readingOf text).reverse.Palindrome ↔ (readingOf text).Palindrome := by
    rw [List.Palindrome.iff_reverse_eq, List.Palindrome.iff_reverse_eq, List.reverse_reverse, eq_comm]
  rw [Bool.eq_iff_iff, isPalindrome_iff, isPalindrome_iff, readingOf_reverse, turned]

theorem palindrome_mirrored (text : List Char) : Checking.isPalindrome (text ++ text.reverse) = true := by
  rw [isPalindrome_iff, readingOf_append, readingOf_reverse]
  exact List.Palindrome.append_reverse _

theorem palindrome_strewn (strews : Strewn text strewn) :
    Checking.isPalindrome strewn = Checking.isPalindrome text := by
  rw [Bool.eq_iff_iff, isPalindrome_iff, isPalindrome_iff, strews.read]

end Readings

/-! ## Small letters -/

theorem lowerWithin_ascii {c : Char} (ascii : c.toNat < 128) (before after : List Char) :
    lowerWithin before after c = [Ascii.toLower c] := by
  have all : ∀ n : Fin 128, Char.ofNat n ≠ 'Σ' ∧ lowerOf (Char.ofNat n) = [Ascii.toLower (Char.ofNat n)] := by
    decide +kernel
  have small := all ⟨c.toNat, ascii⟩
  rw [Char.ofNat_toNat] at small
  exact (if_neg small.1).trans small.2

theorem lower_ascii {text : List Char} (ascii : ∀ c ∈ text, c.toNat < 128) :
    lower text = text.map Ascii.toLower := by
  rw [lower_eq]
  -- What was read before a character does not count, so the induction is for any characters before.
  generalize [] = before
  induction text generalizing before with
  | nil => rfl
  | cons c rest ih =>
      obtain ⟨here, later⟩ := List.forall_mem_cons.mp ascii
      rw [lowerFrom, lowerWithin_ascii here, ih later]
      rfl

/-! ## The pattern of what is passed over -/

def passedMembers : List Member := [.category .word true, .point '_'.toNat]

def passedPattern : Pattern := setPattern "[\\W_]" { ascii := true } false passedMembers

theorem passed_read : Pattern.ofText? { ascii := true } "[\\W_]".toList = .ok passedPattern := by
  decide +kernel

theorem passed_accepts (c : Char) :
    (setClass { ascii := true } false passedMembers).accepts c = !Ascii.isLetterOrDigit c := by
  have cased : ({ ascii := true } : Flags).ignoreCase = false := rfl
  have word : ((Member.category .word true).charClass { ascii := true }).accepts c = !Ascii.isWord c :=
    Bool.bne_true (Ascii.isWord c)
  have line : (c == '_') = true → Ascii.isLetterOrDigit c = false := by
    rw [beq_iff_eq]
    rintro rfl
    rfl
  rw [setClass_accepts cased]
  simp only [passedMembers, List.any_cons, List.any_nil, Bool.or_false, word, point_accepts cased, Ascii.isWord]
  cases underlined : c == '_' with
  | true => simp [line underlined]
  | false => simp

theorem reading_answer (subject : Name) :
    chance.catalogue.chained [("remove_all", [("pattern", .pattern passedPattern)]), ("to_lower_case", [])]
        subject.toValue = .ok (.text (.ofList (readingOf subject.label.toList))) := by
  have removes : chance.Grants ("remove_all", [("pattern", .pattern passedPattern)])
      Edit.removedAll := ⟨rfl, rfl⟩
  have lowers : chance.Grants ("to_lower_case", []) Edit.lowerCase :=
    ⟨rfl, rfl⟩
  have left : chance.catalogue.answer .transformation "remove_all" [("pattern", .pattern passedPattern)]
      subject.toValue = .ok (.text (.ofList (subject.label.toList.filter (!!Ascii.isLetterOrDigit ·)))) :=
    set_removed rfl passed_accepts subject
  simp only [Bool.not_not] at left
  have ascii : ∀ c ∈ subject.label.toList.filter Ascii.isLetterOrDigit, c.toNat < 128 :=
    fun c listed => letterOrDigit_ascii (List.mem_filter.mp listed).2
  rw [chained_pair removes lowers subject (.text _) left, lower_answer, Name.label, String.toList_ofList,
    lower_ascii ascii]
  rfl

/-! ## The test -/

def testPalindrome (chance : Edit.Chance) (subject : Name) : Outcome Value :=
  chance.catalogue.answer .assertion "is_palindrome" [] subject.toValue

theorem testPalindrome_answer (subject : Name) :
    testPalindrome chance subject = .ok (.bool (Checking.isPalindrome subject.label.toList)) :=
  answer_textCheck Checking.isPalindrome rfl subject

/-- The test reads what is left of a text without the hits of a pattern and in small letters, that is its
letters and digits of ASCII, and asks whether this is the same from both ends. So a text and its mirror image
have one answer, a text with its mirror image behind it passes, and putting in characters that are neither
letters nor digits of ASCII does not change the answer. -/
theorem palindromes_are_read_from_both_ends (chance : Edit.Chance) (subject : Name) :
    ∃ (reading : String) (holds : Bool),
    testPalindrome chance subject = .ok (.bool holds) ∧
    (holds = true ↔ reading.toList.Palindrome) ∧
    reading.toList = (subject.label.toList.filter Ascii.isLetterOrDigit).map Ascii.toLower ∧
    Pattern.ofText? { ascii := true } "[\\W_]".toList = .ok passedPattern ∧
    chance.catalogue.chained [("remove_all", [("pattern", .pattern passedPattern)]), ("to_lower_case", [])]
        subject.toValue = .ok (.text reading) ∧
    testPalindrome chance (.text (.ofList subject.label.toList.reverse)) = .ok (.bool holds) ∧
    testPalindrome chance (.text (subject.label ++ .ofList subject.label.toList.reverse)) = .ok (.bool true) ∧
    ∀ strewn : Name, Strewn subject.label.toList strewn.label.toList →
      testPalindrome chance strewn = .ok (.bool holds) := by
  refine ⟨.ofList (readingOf subject.label.toList), _, testPalindrome_answer subject, ?both,
    String.toList_ofList, passed_read, reading_answer subject, ?mirror, ?doubled, ?strewn⟩
  case both =>
    rw [String.toList_ofList]
    exact isPalindrome_iff
  case mirror => rw [testPalindrome_answer, Name.label, String.toList_ofList, palindrome_reverse]
  case doubled =>
    rw [testPalindrome_answer, Name.label, String.toList_append, String.toList_ofList, palindrome_mirrored]
  case strewn =>
    intro strewn strews
    rw [testPalindrome_answer, palindrome_strewn strews]

example : Checking.isPalindrome "Ä_Was it a car, or a cat I saw?!".toList = true := by decide

end TextChain
