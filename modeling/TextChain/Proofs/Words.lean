import TextChain.Proofs.SetPatterns
import TextChain.Proofs.Trimming

/-!
White space and words. All steps take the same characters for blanks. So a text of blanks is one that trimming
leaves nothing of, that has no words, and that nothing is left of without its blanks; and the words of a text,
which trimming does not change, are what is left of it without its blanks.
-/

namespace TextChain

variable {chance : Edit.Chance}

/-! ## Words -/

/-- A text with its words: runs of characters that are not blank, with blanks around them, where each word
goes on until there is a blank or nothing. -/
inductive Worded (blank : Char → Bool) : List Char → List (List Char) → Prop
  | blanks {text : List Char} (empty : ∀ c ∈ text, blank c = true) : Worded blank text []
  | word {gap word rest : List Char} {words : List (List Char)} (before : ∀ c ∈ gap, blank c = true)
      (nonempty : word ≠ []) (solid : ∀ c ∈ word, blank c = false)
      (ends : ∀ c ∈ rest.head?, blank c = true) (later : Worded blank rest words) :
      Worded blank (gap ++ word ++ rest) (word :: words)

section Words
variable {blank : Char → Bool} {text : List Char} {words : List (List Char)}

theorem wordsBy_gap {gap : List Char} (empty : ∀ c ∈ gap, blank c = true) (text : List Char) :
    wordsBy blank (gap ++ text) = wordsBy blank text := by
  induction gap with
  | nil => rfl
  | cons c gap ih =>
      obtain ⟨here, later⟩ := List.forall_mem_cons.mp empty
      have parted := List.splitOnP_append_cons [] (gap ++ text) here
      rw [List.nil_append, List.splitOnP_nil] at parted
      rw [← ih later, List.cons_append, wordsBy, parted]
      rfl

theorem wordsBy_word {word rest : List Char} (nonempty : word ≠ []) (solid : ∀ c ∈ word, blank c = false)
    (ends : ∀ c ∈ rest.head?, blank c = true) :
    wordsBy blank (word ++ rest) = word :: wordsBy blank rest := by
  have whole := List.splitOnP_eq_singleton solid
  have kept : [word].filter (fun word => !word.isEmpty) = [word] := by simp [nonempty]
  cases rest with
  | nil => rw [List.append_nil, wordsBy, whole, kept]; rfl
  | cons c rest =>
      have here := ends c rfl
      rw [wordsBy, List.splitOnP_append_cons word rest here, whole, List.filter_append, kept,
        ← List.singleton_append (l := rest), wordsBy_gap (by simpa using here)]
      rfl

theorem Worded.words_eq (worded : Worded blank text words) : wordsBy blank text = words := by
  induction worded with
  | @blanks text empty =>
      rw [← List.append_nil text, wordsBy_gap empty]
      rfl
  | word before nonempty solid ends later ih =>
      rw [List.append_assoc, wordsBy_gap before, wordsBy_word nonempty solid ends, ih]

theorem Worded.behind {front : List Char} (empty : ∀ c ∈ front, blank c = true)
    (worded : Worded blank text words) : Worded blank (front ++ text) words := by
  cases worded with
  | blanks more => exact .blanks (List.forall_mem_append.mpr ⟨empty, more⟩)
  | word before nonempty solid ends later =>
      rw [← List.append_assoc, ← List.append_assoc]
      exact .word (List.forall_mem_append.mpr ⟨empty, before⟩) nonempty solid ends later

theorem Worded.before {back : List Char} (empty : ∀ c ∈ back, blank c = true)
    (worded : Worded blank text words) : Worded blank (text ++ back) words := by
  induction worded with
  | blanks more => exact .blanks (List.forall_mem_append.mpr ⟨more, empty⟩)
  | @word gap word rest words before nonempty solid ends later ih =>
      rw [List.append_assoc]
      refine .word before nonempty solid ?_ ih
      intro c first
      cases rest with
      | nil => exact empty c (List.mem_of_head? first)
      | cons d rest => exact ends c first

/-- Every text has words. -/
theorem worded_exists (blank : Char → Bool) (text : List Char) : ∃ words, Worded blank text words := by
  induction text with
  | nil => exact ⟨[], .blanks (List.forall_mem_nil _)⟩
  | cons c rest ih =>
      obtain ⟨words, worded⟩ := ih
      cases here : blank c with
      | true =>
          have blanks : ∀ d ∈ [c], blank d = true := by simpa using here
          exact ⟨words, worded.behind blanks⟩
      | false =>
          have alone : ∀ d ∈ [c], blank d = false := by simpa using here
          have single : [c] ≠ [] := List.cons_ne_nil c []
          -- The character joins a word that begins behind it, and otherwise it is a word of its own.
          cases worded with
          | blanks empty =>
              have ends : ∀ d ∈ rest.head?, blank d = true := fun d first => empty d (List.mem_of_head? first)
              exact ⟨[[c]], .word (List.forall_mem_nil _) single alone ends (.blanks empty)⟩
          | @word gap word rest words before nonempty solid ends later =>
              cases gap with
              | nil =>
                  exact ⟨(c :: word) :: words, .word (List.forall_mem_nil _) (List.cons_ne_nil c word)
                    (List.forall_mem_cons.mpr ⟨here, solid⟩) ends later⟩
              | cons d gap =>
                  have parted : ∀ e ∈ (d :: gap ++ word ++ rest).head?, blank e = true := by
                    simpa using before d List.mem_cons_self
                  exact ⟨[c] :: word :: words, .word (List.forall_mem_nil _) single alone parted
                    (.word before nonempty solid ends later)⟩

theorem wordsBy_iff : wordsBy blank text = words ↔ Worded blank text words := by
  constructor
  · rintro rfl
    obtain ⟨words, worded⟩ := worded_exists blank text
    rwa [worded.words_eq]
  · exact Worded.words_eq

theorem Worded.joined (worded : Worded blank text words) : words.flatten = text.filter (!blank ·) := by
  have gone {gap : List Char} (empty : ∀ c ∈ gap, blank c = true) : gap.filter (!blank ·) = [] :=
    List.filter_eq_nil_iff.mpr fun c listed => by simp [empty c listed]
  induction worded with
  | blanks empty => exact (gone empty).symm
  | word before nonempty solid ends later ih =>
      have stays := List.filter_eq_self.mpr fun c listed => congrArg (!·) (solid c listed)
      rw [List.filter_append, List.filter_append, gone before, stays, ← ih]
      rfl

theorem wordsBy_none : wordsBy blank text = [] ↔ ∀ c ∈ text, blank c = true := by
  rw [wordsBy_iff]
  constructor
  · intro worded
    cases worded
    assumption
  · exact .blanks

theorem trimBy_none : trimBy blank text = [] ↔ ∀ c ∈ text, blank c = true := by
  rw [trimBy_iff]
  constructor
  · rintro ⟨⟨front, back, rfl, before, behind⟩, _⟩
    rw [List.append_nil]
    exact List.forall_mem_append.mpr ⟨before, behind⟩
  · intro empty
    exact ⟨⟨text, [], by simp, empty, List.forall_mem_nil _⟩, List.forall_mem_nil _⟩

theorem wordsBy_trimBy (blank : Char → Bool) (text : List Char) :
    wordsBy blank (trimBy blank text) = wordsBy blank text := by
  obtain ⟨front, back, whole, before, behind⟩ := trimBy_margins blank text
  have worded : Worded blank (front ++ trimBy blank text ++ back) (wordsBy blank (trimBy blank text)) :=
    ((wordsBy_iff.mp rfl).behind before).before behind
  rw [← whole] at worded
  exact worded.words_eq.symm

end Words

/-! ## Steps -/

section Steps
variable (subject : Name)

theorem trim_answer : chance.catalogue.answer .transformation "trim" [] subject.toValue =
    .ok (.text (.ofList (trim subject.label.toList))) := by
  rw [answer_transformation Edit.trimmed rfl rfl]
  cases subject <;> rfl

theorem same_int (n m : Int) : (Value.int n).same (.int m) = decide (n = m) := by
  rw [← beq_eq_decide, Bool.beq_comm]
  simp [Value.same, Value.int?, Value.sameFloat]

def counting (count : Int) : Settings := [("count", .int count)]

def testWords (chance : Edit.Chance) (count : Int) (subject : Name) : Outcome Value :=
  chance.catalogue.answer .assertion "word_count" (counting count) subject.toValue

theorem counting_request (count : Int) :
    Call.request .assertion { method := "word_count" } (some { method := "is_", positional := [.int count] }) =
      .ok (.record (.text "word_count") (counting count)) := rfl

theorem testWords_answer (count : Int) : testWords chance count subject =
    .ok (.bool (decide ((wordsBy isBlank subject.label.toList).length = count))) := by
  have given : (counting count).need "count" = .ok (.int count) := rfl
  have words : subject.toValue.wordsOf = .ok (wordsBy isBlank subject.label.toList) := by
    cases subject <;> rfl
  rw [testWords, answer_check Check.countsWords rfl (by decide) rfl]
  simp only [Check.countsWords, words, given, ok_bind]
  exact congrArg (fun holds => Except.ok (Value.bool holds)) (same_int _ count)

theorem blanks_swept {settings : Settings} (asked : Litter.asked settings = [.blanks]) :
    chance.catalogue.answer .transformation "sanitize" settings subject.toValue =
      .ok (.text (.ofList (subject.label.toList.filter (!isBlank ·)))) := by
  rw [Litter.sanitize_answer, asked, Litter.swept_single]
  rfl

theorem blanks_removed : chance.catalogue.answer .transformation "remove_all"
    [("pattern", .pattern Litter.blanks.pattern)] subject.toValue =
      .ok (.text (.ofList (subject.label.toList.filter (!isBlank ·)))) := by
  refine answer_made Edit.removedAll rfl rfl ?_
  refine (Litter.blanks.removal_answer subject).trans ?_
  rw [Litter.swept_single]
  rfl

theorem blanks_fit (text : List Char) :
    Litter.blanks.pattern.fits text = Checking.isRunOf isBlank text :=
  run_fits Litter.blankSet_accepts text

theorem blank_answer : chance.catalogue.answer .assertion "is_whitespace" [] subject.toValue =
    .ok (.bool (Checking.isRunOf isBlank subject.label.toList)) :=
  answer_textCheck (Checking.isRunOf isBlank) rfl subject

end Steps

/-- The same characters count as blank in all steps. A text is white space just if it has characters and
trimming leaves nothing of it, or it has no words, or nothing is left of it without its blanks. Trimming does
not change the words of a text, and put together they are the text without its blanks. White space is what the
pattern for a run of blanks fits, and its hits are the blanks that sanitizing takes out. -/
theorem blanks_are_the_same_in_all_steps (chance : Edit.Chance) (subject : Name) :
    ∃ (white : Bool) (trimmed left : String) (words : List (List Char)),
      chance.catalogue.answer .assertion "is_whitespace" [] subject.toValue = .ok (.bool white) ∧
      chance.catalogue.answer .transformation "trim" [] subject.toValue = .ok (.text trimmed) ∧
      (∀ settings, Litter.asked settings = [.blanks] →
        chance.catalogue.answer .transformation "sanitize" settings subject.toValue = .ok (.text left)) ∧
      Worded isBlank subject.label.toList words ∧
      (∀ count : Int, testWords chance count subject = .ok (.bool (decide (words.length = count)))) ∧
      (white = true ↔ subject.label ≠ "" ∧ trimmed = "") ∧
      (white = true ↔ subject.label ≠ "" ∧ testWords chance 0 subject = .ok (.bool true)) ∧
      (white = true ↔ subject.label ≠ "" ∧ left = "") ∧
      Worded isBlank trimmed.toList words ∧
      (∀ count : Int, testWords chance count (.text trimmed) = testWords chance count subject) ∧
      (∀ count : Int, Call.request .assertion { method := "word_count" }
        (some { method := "is_", positional := [.int count] }) =
          .ok (.record (.text "word_count") (counting count))) ∧
      words.flatten = left.toList ∧
      Pattern.ofText? {} Litter.blanks.source.toList = .ok Litter.blanks.pattern ∧
      Litter.blanks.pattern.fits subject.label.toList = white ∧
      chance.catalogue.answer .transformation "remove_all" [("pattern", .pattern Litter.blanks.pattern)]
        subject.toValue = .ok (.text left) := by
  have written : subject.label ≠ "" ↔ subject.label.toList ≠ [] := not_congr String.toList_eq_nil_iff.symm
  have white : Checking.isRunOf isBlank subject.label.toList = true ↔
      subject.label ≠ "" ∧ ∀ c ∈ subject.label.toList, isBlank c = true := by
    rw [isRunOf_iff, written]
    rfl
  refine ⟨_, _, _, _, blank_answer subject, trim_answer subject, fun _ asked => blanks_swept subject asked,
    wordsBy_iff.mp rfl, testWords_answer subject, ?trims, ?counts, ?sweeps, ?same, ?kept,
    counting_request, ?joined, Litter.blanks.pattern_read, blanks_fit _, blanks_removed subject⟩
  case trims => rw [white, String.ofList_eq_empty_iff, trim, trimBy_none]
  case counts =>
    rw [white, testWords_answer, ← wordsBy_none]
    simp
  case sweeps =>
    rw [white, String.ofList_eq_empty_iff, List.filter_eq_nil_iff]
    simp
  case same =>
    rw [String.toList_ofList, ← wordsBy_iff]
    exact wordsBy_trimBy isBlank _
  case kept =>
    intro count
    rw [testWords_answer, testWords_answer, Name.label, String.toList_ofList, trim, wordsBy_trimBy]
  case joined => rw [String.toList_ofList, (wordsBy_iff.mp rfl).joined]

example : Litter.asked [("remove_spaces", .bool true)] = [.blanks] := by decide

example : wordsBy isBlank "\t one\u00a0two \n".toList = ["one".toList, "two".toList] := by decide

end TextChain
