import TextChain.Proofs.SetPatterns

/-!
Tests of letter case. For capitals and for small letters there is one test that looks for a letter of the form
and one that asks whether all letters have it, of which there has to be one. The second test passes just where
the first one does and the first one for the other form does not, so a text of letters has capitals only, small
letters only, or both.
-/

namespace TextChain

variable {chance : Edit.Chance}

/-- The two forms of the letters of ASCII. -/
inductive LetterForm where
  | capital
  | small
  deriving DecidableEq, Repr

namespace LetterForm

def other : LetterForm → LetterForm
  | .capital => .small
  | .small => .capital

def first : LetterForm → Char
  | .capital => 'A'
  | .small => 'a'

def last : LetterForm → Char
  | .capital => 'Z'
  | .small => 'z'

def holds (form : LetterForm) (c : Char) : Bool := form.first ≤ c && c ≤ form.last

def someTest : LetterForm → String
  | .capital => "is_upper_case"
  | .small => "is_lower_case"

def allTest : LetterForm → String
  | .capital => "has_all_uppercase"
  | .small => "has_all_lowercase"

/-! ## Letters -/

section Letters
variable (form : LetterForm) {text : List Char}

theorem isLetter_forms (c : Char) : Ascii.isLetter c = (form.holds c || form.other.holds c) := by
  cases form with
  | capital => rfl
  | small => exact Bool.or_comm _ _

theorem forms_apart {c : Char} (inForm : form.holds c = true) : form.other.holds c = false := by
  rw [Bool.eq_false_iff]
  intro also
  simp only [holds, Bool.and_eq_true, decide_eq_true_eq] at inForm also
  -- The small letters come behind the capitals.
  have below : LetterForm.capital.last < LetterForm.small.first := by decide
  cases form with
  | capital => exact absurd also.1 (Std.not_le.mpr (Std.lt_of_le_of_lt inForm.2 below))
  | small => exact absurd inForm.1 (Std.not_le.mpr (Std.lt_of_le_of_lt also.2 below))

theorem letter_holds (c : Char) :
    (Ascii.isLetter c = true → form.holds c = true) ↔ form.other.holds c = false := by
  rw [form.isLetter_forms]
  cases inForm : form.holds c with
  | true => simp [form.forms_apart inForm]
  | false => simp

theorem all_letters (text : List Char) : Checking.isRunOf form.holds (Checking.lettersOf text) =
    (text.any form.holds && !text.any form.other.holds) := by
  have whole : (∀ c ∈ Checking.lettersOf text, form.holds c = true) ↔
      ∀ c ∈ text, form.other.holds c = false := by
    simp only [Checking.lettersOf, List.mem_filter, and_imp, form.letter_holds]
  have letters : Checking.lettersOf text ≠ [] ↔ ∃ c ∈ text, Ascii.isLetter c = true := by
    simp [Checking.lettersOf, List.filter_eq_nil_iff]
  rw [Bool.eq_iff_iff, isRunOf_iff, Figures, whole, letters, Bool.and_eq_true, Bool.not_eq_true',
    List.any_eq_true, List.any_eq_false]
  simp only [Bool.not_eq_true]
  -- Where no letter has the other form, the letters are those of this form.
  refine and_congr_left fun none => exists_congr fun c => and_congr_right fun listed => ?_
  rw [form.isLetter_forms, none c listed, Bool.or_false]

theorem letters_some (letters : Checking.isRunOf Ascii.isLetter text = true) :
    (text.any form.holds || text.any form.other.holds) = true := by
  obtain ⟨nonempty, every⟩ := isRunOf_iff.mp letters
  obtain ⟨c, listed⟩ := List.exists_mem_of_ne_nil text nonempty
  have either := every c listed
  rw [form.isLetter_forms, Bool.or_eq_true] at either
  rw [Bool.or_eq_true, List.any_eq_true, List.any_eq_true]
  exact either.imp (⟨c, listed, ·⟩) (⟨c, listed, ·⟩)

end Letters

/-! ## Patterns -/

def member (form : LetterForm) : Member := .between form.first form.last

def single : LetterForm → Pattern
  | .capital => setPattern "[A-Z]" {} false [capital.member]
  | .small => setPattern "[a-z]" {} false [small.member]

def run : LetterForm → Pattern
  | .capital => runPattern "[A-Z]+" [capital.member]
  | .small => runPattern "[a-z]+" [small.member]

theorem member_accepts (form : LetterForm) (c : Char) :
    (setClass {} false [form.member]).accepts c = form.holds c := by
  rw [setClass_accepts rfl, List.any_cons, List.any_nil, Bool.or_false]
  exact between_accepts rfl form.first form.last c

end LetterForm

def bothForms : List Member := [LetterForm.capital.member, LetterForm.small.member]

def letterRun : Pattern := runPattern "[A-Za-z]+" bothForms

def letterless : Pattern := setPattern "[^A-Za-z]" {} true bothForms

theorem letter_patterns_read :
    ∀ pattern ∈ [LetterForm.capital.single, LetterForm.small.single, LetterForm.capital.run,
      LetterForm.small.run, letterRun, letterless], Pattern.ofText? {} pattern.source = .ok pattern := by
  decide +kernel

theorem bothForms_accept (c : Char) : (setClass {} false bothForms).accepts c = Ascii.isLetter c := by
  have inForm (form : LetterForm) : (form.member.charClass {}).accepts c = form.holds c :=
    between_accepts rfl form.first form.last c
  rw [setClass_accepts rfl, LetterForm.capital.isLetter_forms]
  simp only [bothForms, List.any_cons, List.any_nil, Bool.or_false, inForm]
  rfl

theorem letterless_accepts (c : Char) : (setClass {} true bothForms).accepts c = !Ascii.isLetter c := by
  rw [negatedSet_accepts, bothForms_accept]

/-! ## Steps -/

def testLetters (chance : Edit.Chance) (test : String) (subject : Name) : Outcome Value :=
  chance.catalogue.answer .assertion test [] subject.toValue

section Steps
variable (form : LetterForm) (subject : Name)

theorem some_answer :
    testLetters chance form.someTest subject = .ok (.bool (subject.label.toList.any form.holds)) := by
  cases form with
  | capital => exact answer_textCheck (·.any Ascii.isUpper) rfl subject
  | small => exact answer_textCheck (·.any Ascii.isLower) rfl subject

theorem all_answer : testLetters chance form.allTest subject =
    .ok (.bool (Checking.isRunOf form.holds (Checking.lettersOf subject.label.toList))) := by
  cases form with
  | capital => exact answer_textCheck Checking.allUppercase rfl subject
  | small => exact answer_textCheck Checking.allLowercase rfl subject

theorem alpha_answer : testLetters chance "is_alpha" subject =
    .ok (.bool (Checking.isRunOf Ascii.isLetter subject.label.toList)) :=
  answer_textCheck (Checking.isRunOf Ascii.isLetter) rfl subject

theorem single_found : chance.catalogue.answer .assertion "passes_regex" [("pattern", .pattern form.single)]
    subject.toValue = .ok (.bool (subject.label.toList.any form.holds)) := by
  cases form with
  | capital => exact set_found rfl LetterForm.capital.member_accepts subject
  | small => exact set_found rfl LetterForm.small.member_accepts subject

theorem letterless_removed : chance.catalogue.answer .transformation "remove_all"
    [("pattern", .pattern letterless)] subject.toValue =
      .ok (.text (.ofList (Checking.lettersOf subject.label.toList))) := by
  have removed : chance.catalogue.answer .transformation "remove_all" [("pattern", .pattern letterless)]
      subject.toValue = .ok (.text (.ofList (subject.label.toList.filter (!!Ascii.isLetter ·)))) :=
    set_removed rfl letterless_accepts subject
  simp only [Bool.not_not] at removed
  exact removed

theorem run_fits_form (text : List Char) : form.run.fits text = Checking.isRunOf form.holds text := by
  cases form with
  | capital => exact run_fits LetterForm.capital.member_accepts text
  | small => exact run_fits LetterForm.small.member_accepts text

end Steps

/-- For either form of the letters, the test of all letters passes just if the test for some letter of the
form passes and the one for some letter of the other form does not. If there are letters and nothing else,
then all are capitals, or all are small, or some are of either form, and only one of this is so. The tests
find what patterns find: a letter of a form, a run of letters, and a run of letters of a form where everything
that is no letter was removed. -/
theorem letter_tests_fit_together (chance : Edit.Chance) (subject : Name) :
    ∃ (found all : LetterForm → Bool) (letters : Bool) (left : String),
      (∀ form, testLetters chance form.someTest subject = .ok (.bool (found form))) ∧
      (∀ form, testLetters chance form.allTest subject = .ok (.bool (all form))) ∧
      testLetters chance "is_alpha" subject = .ok (.bool letters) ∧
      (∀ form, all form = true ↔ found form = true ∧ found form.other = false) ∧
      (letters = true →
        [all .capital, all .small, found .capital && found .small].count true = 1) ∧
      (∀ pattern ∈ [LetterForm.capital.single, LetterForm.small.single, LetterForm.capital.run,
        LetterForm.small.run, letterRun, letterless], Pattern.ofText? {} pattern.source = .ok pattern) ∧
      (∀ form : LetterForm, chance.catalogue.answer .assertion "passes_regex"
        [("pattern", .pattern form.single)] subject.toValue = .ok (.bool (found form))) ∧
      letterRun.fits subject.label.toList = letters ∧
      chance.catalogue.answer .transformation "remove_all" [("pattern", .pattern letterless)]
        subject.toValue = .ok (.text left) ∧
      ∀ form : LetterForm, form.run.fits left.toList = all form := by
  refine ⟨_, _, _, _, fun form => some_answer form subject, fun form => all_answer form subject,
    alpha_answer subject, ?other, ?one, letter_patterns_read,
    fun form => single_found form subject, run_fits bothForms_accept _, letterless_removed subject, ?left⟩
  case other =>
    intro form
    rw [form.all_letters, Bool.and_eq_true, Bool.not_eq_true']
  case one =>
    intro letters
    have present := LetterForm.capital.letters_some letters
    simp only [LetterForm.all_letters, LetterForm.other] at present ⊢
    -- What is left is about the two answers to the tests for some letter.
    generalize subject.label.toList.any LetterForm.capital.holds = capitals at present ⊢
    generalize subject.label.toList.any LetterForm.small.holds = smalls at present ⊢
    revert capitals smalls
    decide
  case left =>
    intro form
    rw [String.toList_ofList, run_fits_form]

end TextChain
