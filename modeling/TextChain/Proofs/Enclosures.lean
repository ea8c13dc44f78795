import TextChain.Proofs.LoneSteps
import TextChain.Proofs.Occurrences
import TextChain.Proofs.Standards
import TextChain.Proofs.TextResults

/-!
Texts between marks. One step asks whether something stands between two marks, and another one takes what
stands there. Both look for the first opening mark and for the first closing mark behind it, but they do not
agree on a closing mark that follows at once.
-/

namespace TextChain

variable {chance : Edit.Chance}

/-! ## What stands between -/

/-- The part stands between the first opening mark and the first closing mark behind it. -/
def StandsBetween (opening closing text part : List Char) : Prop :=
  ∃ before inside after, FirstCut opening text before inside ∧ FirstCut closing inside part after

/-- Behind the first opening mark, which is not empty, the closing mark follows at once. -/
def Adjacent (opening closing text : List Char) : Prop :=
  opening ≠ [] ∧ ∃ before after, FirstCut opening text before (closing ++ after)

section Marks
variable {opening closing text part : List Char}

theorem firstCut_nil {inside after : List Char} :
    FirstCut closing inside [] after ↔ inside = closing ++ after := by
  constructor
  · exact fun cut => cut.whole
  · exact fun whole => ⟨whole, fun _ _ _ => Nat.zero_le _⟩

theorem adjacent_iff :
    Adjacent opening closing text ↔ opening ≠ [] ∧ between? opening closing text = some [] := by
  rw [between?_iff, Adjacent]
  refine and_congr_right fun _ => ⟨?stands, ?follows⟩
  case stands =>
    rintro ⟨before, after, opened⟩
    exact ⟨before, closing ++ after, after, opened, firstCut_nil.mpr rfl⟩
  case follows =>
    rintro ⟨before, inside, after, opened, closed⟩
    obtain rfl := firstCut_nil.mp closed
    exact ⟨before, after, opened⟩

theorem between?_missing (missing : occursIn opening text = false) :
    between? opening closing text = none := by
  rw [occursIn, Option.isSome_eq_false_iff, Option.isNone_iff_eq_none] at missing
  rw [between?, missing, Option.bind_none]

theorem isEnclosing_iff : Checking.isEnclosing opening closing text = true ↔
    ∃ part, StandsBetween opening closing text part ∧ part ≠ [] := by
  simp only [StandsBetween, ← between?_iff, Checking.isEnclosing]
  cases between? opening closing text with
  | none => simp
  | some part => simp

theorem enclosed?_iff : Editing.enclosed? opening closing text = some part ↔
    StandsBetween opening closing text part ∧ (part = [] → Adjacent opening closing text) := by
  rw [adjacent_iff, StandsBetween, ← between?_iff, Editing.enclosed?]
  cases found : between? opening closing text with
  | none => simp
  | some other =>
      cases other with
      | nil => cases opening <;> simp +contextual
      | cons c rest =>
          constructor
          · rintro ⟨⟩
            exact ⟨rfl, nofun⟩
          · exact fun stands => stands.1

end Marks

/-! ## The two steps -/

theorem needle_name (name : Name) : Value.needle .text name.toValue = .ok name.label.toList := by
  rw [Value.needle, Name.toValue_chars?]

def markSettings (opening closing : Name) : Settings :=
  [("prefix", opening.toValue), ("suffix", closing.toValue)]

theorem marks_given (opening closing : Name) :
    (markSettings opening closing).need "prefix" = .ok opening.toValue ∧
      (markSettings opening closing).need "suffix" = .ok closing.toValue := ⟨rfl, rfl⟩

def testBetween (chance : Edit.Chance) (opening closing subject : Name) : Outcome Value :=
  chance.catalogue.answer .assertion "is_between" (markSettings opening closing) subject.toValue

def takeBetween (chance : Edit.Chance) (opening closing subject : Name) : Outcome Value :=
  chance.catalogue.answer .transformation "extract_when_between" (markSettings opening closing)
    subject.toValue

section Steps
variable (opening closing subject : Name)

theorem testBetween_answer :
    testBetween chance opening closing subject =
      .ok (.bool (Checking.isEnclosing opening.label.toList closing.label.toList
        subject.label.toList)) := by
  rw [testBetween, answer_check Check.encloses rfl (by decide) rfl]
  simp only [Check.encloses, marks_given, ok_bind, Name.toValue_method, needle_name, Name.toValue_length]
  cases there : occursIn opening.label.toList subject.label.toList with
  | true => rfl
  | false =>
      rw [Checking.isEnclosing, between?_missing there]
      rfl

theorem takeBetween_answer :
    takeBetween chance opening closing subject =
      match Editing.enclosed? opening.label.toList closing.label.toList subject.label.toList with
      | some part => .ok (.ofChars part)
      | none => .error (.step .marksNotFound (.text "extract_when_between")) := by
  rw [takeBetween, answer_transformation Edit.extractedWhenBetween rfl rfl]
  simp only [Edit.extractedWhenBetween, Edit.enclosed, marks_given, ok_bind, Name.toValue_method,
    needle_name, Name.toValue_length]
  cases there : occursIn opening.label.toList subject.label.toList with
  | true =>
      cases Editing.enclosed? opening.label.toList closing.label.toList subject.label.toList <;> rfl
  | false =>
      rw [Editing.enclosed?, between?_missing there]
      rfl

theorem takeBetween_iff (part : String) :
    takeBetween chance opening closing subject = .ok (.text part) ↔
      StandsBetween opening.label.toList closing.label.toList subject.label.toList part.toList ∧
        (part = "" → Adjacent opening.label.toList closing.label.toList subject.label.toList) := by
  have empty : part.toList = [] ↔ part = "" := String.toList_eq_nil_iff
  rw [takeBetween_answer, ← empty, ← enclosed?_iff]
  cases Editing.enclosed? opening.label.toList closing.label.toList subject.label.toList with
  | none => simp
  | some other =>
      rw [Option.some.injEq, Except.ok.injEq, Value.ofChars, Value.text.injEq]
      constructor
      · rintro rfl
        exact String.toList_ofList.symm
      · rintro rfl
        exact String.ofList_toList

theorem testBetween_iff :
    testBetween chance opening closing subject = .ok (.bool true) ↔
      ∃ part, takeBetween chance opening closing subject = .ok (.text part) ∧ part ≠ "" := by
  rw [testBetween_answer, Except.ok.injEq, Value.bool.injEq, isEnclosing_iff]
  constructor
  · rintro ⟨part, stands, nonempty⟩
    have written : String.ofList part ≠ "" := by simpa using nonempty
    refine ⟨String.ofList part, ?_, written⟩
    rw [takeBetween_iff, String.toList_ofList]
    exact ⟨stands, fun empty => absurd empty written⟩
  · rintro ⟨part, taken, nonempty⟩
    exact ⟨part.toList, ((takeBetween_iff _ _ _ _).mp taken).1, by simpa using nonempty⟩

theorem takeBetween_empty :
    takeBetween chance opening closing subject = .ok (.text "") ↔
      Adjacent opening.label.toList closing.label.toList subject.label.toList := by
  rw [takeBetween_iff]
  constructor
  · exact fun ⟨_, adjacent⟩ => adjacent rfl
  · exact fun adjacent => ⟨between?_iff.mp (adjacent_iff.mp adjacent).2, fun _ => adjacent⟩

theorem takeBetween_cases :
    (∃ part, takeBetween chance opening closing subject = .ok (.text part)) ∨
      told (takeBetween chance opening closing subject) = .error (.kind .step, "Not found") := by
  rw [takeBetween_answer]
  cases Editing.enclosed? opening.label.toList closing.label.toList subject.label.toList with
  | none => exact Or.inr rfl
  | some part => exact Or.inl ⟨String.ofList part, rfl⟩

end Steps

/-- Whether something stands between two marks is answered with yes just if a text can be taken that is not
empty, and this is the text up to the first closing mark behind the first opening one. Where the two marks
are adjacent the answer is no, and yet an empty text is taken. Only there the two steps do not agree; where
nothing is taken, the marks are not found. -/
theorem marks_agree_unless_adjacent (chance : Edit.Chance) (opening closing subject : Name) :
    ∃ holds : Bool,
      testBetween chance opening closing subject = .ok (.bool holds) ∧
      (holds = true ↔ ∃ part, takeBetween chance opening closing subject = .ok (.text part) ∧ part ≠ "") ∧
      (∀ part ≠ "", takeBetween chance opening closing subject = .ok (.text part) ↔
        StandsBetween opening.label.toList closing.label.toList subject.label.toList part.toList) ∧
      (takeBetween chance opening closing subject = .ok (.text "") ↔
        Adjacent opening.label.toList closing.label.toList subject.label.toList) ∧
      ((∃ part, takeBetween chance opening closing subject = .ok (.text part)) ∨
        told (takeBetween chance opening closing subject) = .error (.kind .step, "Not found")) ∧
      ((holds = true ↔ ∃ answer, takeBetween chance opening closing subject = .ok answer) ↔
        ¬ Adjacent opening.label.toList closing.label.toList subject.label.toList) := by
  have tested := @testBetween_iff chance opening closing subject
  have empty := @takeBetween_empty chance opening closing subject
  have either := @takeBetween_cases chance opening closing subject
  rw [testBetween_answer, Except.ok.injEq, Value.bool.injEq] at tested
  refine ⟨_, testBetween_answer opening closing subject, tested, ?taken, empty, either, ?agree⟩
  case taken =>
    intro part nonempty
    rw [takeBetween_iff]
    exact ⟨And.left, fun stands => ⟨stands, fun blank => absurd blank nonempty⟩⟩
  case agree =>
    rw [tested]
    constructor
    -- Where the marks are adjacent, an empty text is taken although the answer is no.
    · intro agree adjacent
      obtain ⟨part, taken, nonempty⟩ := agree.mpr ⟨_, empty.mpr adjacent⟩
      rw [empty.mpr adjacent] at taken
      cases taken
      exact nonempty rfl
    · intro apart
      constructor
      · exact fun ⟨part, taken, _⟩ => ⟨_, taken⟩
      · rintro ⟨answer, taken⟩
        rcases either with ⟨part, same⟩ | failed
        · exact ⟨part, same, fun blank => apart (empty.mp (blank ▸ same))⟩
        · rw [taken] at failed
          cases failed

example :
    Check.encloses (markSettings (.text "[") (.text "]")) (.text "[]") = .ok false ∧
      Edit.enclosed (.text "extract_when_between") (markSettings (.text "[") (.text "]"))
        (.text "[]") = .ok (.text "") := ⟨rfl, rfl⟩

/-! ## Taking what was put between -/

section Marked
variable {opening closing : Name}

theorem standsBetween_some {opening closing text : List Char} :
    (∃ part, StandsBetween opening closing text part) ↔
      ∃ before inside, FirstCut opening text before inside ∧ closing <:+: inside := by
  constructor
  · rintro ⟨part, before, inside, after, opened, closed⟩
    exact ⟨before, inside, opened, infix_iff_firstCut.mpr ⟨part, after, closed⟩⟩
  · rintro ⟨before, inside, opened, occurs⟩
    obtain ⟨part, after, closed⟩ := infix_iff_firstCut.mp occurs
    exact ⟨part, before, inside, after, opened, closed⟩

theorem takeBetween_marked (marked : opening.label ≠ "") (closing subject : Name) (part : String) :
    takeBetween chance opening closing subject = .ok (.text part) ↔
      StandsBetween opening.label.toList closing.label.toList subject.label.toList part.toList := by
  rw [takeBetween_iff]
  constructor
  · exact And.left
  · intro stands
    refine ⟨stands, fun blank => ?_⟩
    obtain ⟨before, inside, after, opened, closed⟩ := stands
    rw [blank, String.toList_empty] at closed
    obtain rfl := firstCut_nil.mp closed
    exact ⟨by simpa using marked, before, after, opened⟩

theorem takeBetween_fails_iff (marked : opening.label ≠ "") (closing subject : Name) :
    told (takeBetween chance opening closing subject) = .error (.kind .step, "Not found") ↔
      ¬ opening.label.toList <:+: subject.label.toList ∨
        ∃ before inside, FirstCut opening.label.toList subject.label.toList before inside ∧
          ¬ closing.label.toList <:+: inside := by
  have taken_iff : (∃ part, takeBetween chance opening closing subject = .ok (.text part)) ↔
      ∃ before inside, FirstCut opening.label.toList subject.label.toList before inside ∧
        closing.label.toList <:+: inside := by
    rw [← standsBetween_some]
    constructor
    · rintro ⟨part, taken⟩
      exact ⟨part.toList, (takeBetween_marked marked closing subject part).mp taken⟩
    · rintro ⟨part, stands⟩
      refine ⟨.ofList part, (takeBetween_marked marked closing subject _).mpr ?_⟩
      rwa [String.toList_ofList]
  constructor
  · intro failed
    have never : ¬ ∃ part, takeBetween chance opening closing subject = .ok (.text part) := by
      rintro ⟨part, taken⟩
      rw [taken] at failed
      cases failed
    rw [taken_iff] at never
    by_cases opens : opening.label.toList <:+: subject.label.toList
    · obtain ⟨before, inside, opened⟩ := infix_iff_firstCut.mp opens
      exact Or.inr ⟨before, inside, opened, fun closes => never ⟨before, inside, opened, closes⟩⟩
    · exact Or.inl opens
  · intro missing
    -- A text that was taken would need both marks.
    rcases takeBetween_cases opening closing subject with found | failed
    · obtain ⟨before, inside, opened, closes⟩ := taken_iff.mp found
      rcases missing with unopened | ⟨front, back, first, unclosed⟩
      · exact absurd (infix_iff_firstCut.mpr ⟨before, inside, opened⟩) unopened
      · obtain ⟨_, rfl⟩ := opened.unique first
        exact absurd closes unclosed
    · exact failed

theorem truthy_of_marked {name : Name} (marked : name.label ≠ "") : name.toValue.truthy = true := by
  cases name with
  | text s => simpa [Name.toValue, Value.truthy, Name.label] using marked
  | preset p => rfl

theorem added_marks (opened : opening.label ≠ "") (closed : closing.label ≠ "") (name : Name)
    (subject : Name) :
    Edit.added name (markSettings opening closing) subject.toValue =
      .ok (.ofChars (opening.label.toList ++ subject.label.toList ++ closing.label.toList)) := by
  have front : Settings.either (markSettings opening closing) "prefix" .nothing = opening.toValue := rfl
  have back : Settings.either (markSettings opening closing) "suffix" .nothing = closing.toValue := rfl
  simp only [Edit.added, front, back, truthy_of_marked opened, truthy_of_marked closed, ↓reduceIte,
    plus_spells (Name.toValue_chars? opening) (Name.toValue_chars? subject), ok_bind,
    plus_spells (ofChars_spells _) (Name.toValue_chars? closing)]

/-- A text is taken out again from between two marks if the closing mark does not stand earlier than where
it was put. -/
theorem added_taken (opened : opening.label ≠ "") (closed : closing.label ≠ "") (subject : Name)
    (last : FirstCut closing.label.toList (subject.label.toList ++ closing.label.toList)
      subject.label.toList []) :
    chance.catalogue.chained [("add", markSettings opening closing),
      ("extract_when_between", markSettings opening closing)] subject.toValue =
        .ok (.text subject.label) := by
  have begun : chance.Grants ("add", markSettings opening closing) Edit.add :=
    ⟨rfl, rfl⟩
  have ended : chance.Grants ("extract_when_between", markSettings opening closing)
      Edit.extractedWhenBetween := ⟨rfl, rfl⟩
  let wrapped := opening.label.toList ++ subject.label.toList ++ closing.label.toList
  have stands : StandsBetween opening.label.toList closing.label.toList wrapped subject.label.toList := by
    refine ⟨[], subject.label.toList ++ closing.label.toList, [], firstCut_nil.mpr ?_, last⟩
    exact List.append_assoc _ _ _
  have added : chance.catalogue.answer .transformation "add" (markSettings opening closing)
      subject.toValue = .ok (Name.text (.ofList wrapped)).toValue := by
    refine answer_made Edit.add rfl rfl ?_
    exact added_marks opened closed (.text "add") subject
  rw [chained_pair begun ended subject _ added]
  change takeBetween chance opening closing (.text (.ofList wrapped)) = _
  rw [takeBetween_marked opened, Name.label, String.toList_ofList]
  exact stands

end Marked

/-- Behind an opening mark that is not empty, what is taken is the text up to the first closing mark behind
the first opening one. It fails only where the opening mark does not occur, or the closing mark not behind
it. So a text that was put between two marks is taken out again, unless the closing mark stands earlier. -/
theorem first_enclosed_text_is_taken (chance : Edit.Chance) {opening : Name}
    (marked : opening.label ≠ "") (closing subject : Name) :
    (∀ part : String, takeBetween chance opening closing subject = .ok (.text part) ↔
      ∃ before inside after, FirstCut opening.label.toList subject.label.toList before inside ∧
        FirstCut closing.label.toList inside part.toList after) ∧
    (told (takeBetween chance opening closing subject) = .error (.kind .step, "Not found") ↔
      ¬ opening.label.toList <:+: subject.label.toList ∨
        ∃ before inside, FirstCut opening.label.toList subject.label.toList before inside ∧
          ¬ closing.label.toList <:+: inside) ∧
    ((∃ part, takeBetween chance opening closing subject = .ok (.text part)) ∨
      told (takeBetween chance opening closing subject) = .error (.kind .step, "Not found")) ∧
    (closing.label ≠ "" →
      FirstCut closing.label.toList (subject.label.toList ++ closing.label.toList)
        subject.label.toList [] →
      chance.catalogue.chained [("add", markSettings opening closing),
        ("extract_when_between", markSettings opening closing)] subject.toValue =
          .ok (.text subject.label)) := by
  refine ⟨?taken, ?failed, ?either, ?again⟩
  case taken => exact fun part => takeBetween_marked marked closing subject part
  case failed => exact takeBetween_fails_iff marked closing subject
  case either => exact takeBetween_cases opening closing subject
  case again => exact fun closed last => added_taken marked closed subject last

theorem crowded_marks_taken :
    (Name.text "<<").label ≠ "" ∧
      takeBetween .standing (.text "<<") (.text ">>") (.text "a<<<b>>>") = .ok (.text "<b") ∧
      told (takeBetween .standing (.text "<<") (.text ">>") (.text ">>a<<b")) =
        .error (.kind .step, "Not found") ∧
      Catalogue.builtIn.chained [("add", markSettings (.text "<<") (.text ">>")),
        ("extract_when_between", markSettings (.text "<<") (.text ">>"))] (.text "<a<") =
          .ok (.text "<a<") := by
  have marked : (Name.text "<<").label ≠ "" := by decide
  have closed : (Name.text ">>").label ≠ "" := by decide
  obtain ⟨taken, _, _, _⟩ := first_enclosed_text_is_taken .standing marked (.text ">>") (.text "a<<<b>>>")
  obtain ⟨_, failed, _, _⟩ := first_enclosed_text_is_taken .standing marked (.text ">>") (.text ">>a<<b")
  obtain ⟨_, _, _, again⟩ := first_enclosed_text_is_taken .standing marked (.text ">>") (.text "<a<")
  refine ⟨marked, ?_, ?_, ?_⟩
  · exact (taken "<b").mpr
      ⟨['a'], "<b>>>".toList, ['>'], cut?_iff.mp (by decide), cut?_iff.mp (by decide)⟩
  · exact failed.mpr (Or.inr ⟨">>a".toList, ['b'], cut?_iff.mp (by decide),
      occursIn_iff.not.mp (by decide)⟩)
  · exact again closed (cut?_iff.mp (by decide))

end TextChain
