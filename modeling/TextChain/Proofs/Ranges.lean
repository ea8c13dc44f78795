import TextChain.Proofs.DigitTexts
import TextChain.Proofs.Gaps
import TextChain.Proofs.LoneSteps

/-!
Places and ranges of a text. The bounds of a range count from the end of the text if they are below zero and
are brought into the text, but a place below zero or behind the end has no character. All the same they fit
together: the ranges in front of a bound and behind it make up the text, and a place that is not below zero
has the range of one character.
-/

namespace TextChain

variable {chance : Edit.Chance}

/-! ## Slices -/

section Slices
variable {α : Type} {place : Int}

theorem slice_front (place : Int) (text : List α) :
    slice (some 0) (some place) text = text.take (clampBound text.length place) := by
  have start : clampBound text.length 0 = 0 := by simp [clampBound]
  simp only [slice, Option.map_some, Option.getD_some, start, List.drop_zero, Nat.sub_zero]

theorem slice_back (place : Int) (text : List α) :
    slice (some place) none text = text.drop (clampBound text.length place) := by
  simp only [slice, Option.map_some, Option.map_none, Option.getD_some, Option.getD_none]
  exact List.take_of_length_le (Nat.le_of_eq List.length_drop)

theorem slice_parts (place : Int) (text : List α) :
    slice (some 0) (some place) text ++ slice (some place) none text = text := by
  rw [slice_front, slice_back, List.take_append_drop]

def elementAt? (place : Int) (text : List α) : Option α :=
  if 0 ≤ place then text[place.toNat]? else none

theorem elementAt?_below (below : place < 0) (text : List α) : elementAt? place text = none :=
  if_neg (Int.not_le.mpr below)

theorem elementAt?_beyond {text : List α} (beyond : (text.length : Int) ≤ place) :
    elementAt? place text = none := by
  have forward : 0 ≤ place := by omega
  rw [elementAt?, if_pos forward]
  exact List.getElem?_eq_none (by omega)

theorem elementAt?_inside {text : List α} (forward : 0 ≤ place) (inside : place < text.length) :
    ∃ x, elementAt? place text = some x ∧ text[place.toNat]? = some x := by
  have within : place.toNat < text.length := by omega
  rw [elementAt?, if_pos forward]
  exact ⟨text[place.toNat], List.getElem?_eq_getElem within, List.getElem?_eq_getElem within⟩

theorem slice_one (forward : 0 ≤ place) (text : List α) :
    slice (some place) (some (place + 1)) text = (elementAt? place text).toList := by
  obtain ⟨n, rfl⟩ := Int.eq_ofNat_of_zero_le forward
  have bound (m : Nat) : clampBound text.length (m : Int) = min m text.length :=
    if_neg (Int.not_lt.mpr (Int.natCast_nonneg m))
  have first := bound n
  have last : clampBound text.length ((n : Int) + 1) = min (n + 1) text.length := bound (n + 1)
  simp only [slice, Option.map_some, Option.getD_some, first, last, elementAt?, if_pos forward,
    Int.toNat_natCast]
  -- Both bounds are brought into the text, so behind its end nothing is left between them.
  rcases Nat.lt_or_ge n text.length with inside | beyond
  · have room : min (n + 1) text.length - min n text.length = 1 := by omega
    rw [room, Nat.min_eq_left (Nat.le_of_lt inside), List.take_one, List.head?_drop]
  · have noRoom : min (n + 1) text.length - min n text.length = 0 := by omega
    rw [noRoom, List.take_zero, List.getElem?_eq_none beyond, Option.toList_none]

end Slices

/-! ## Steps -/

def takeRange (chance : Edit.Chance) (settings : Settings) (subject : Name) : Outcome Value :=
  chance.catalogue.answer .transformation "extract_in_range" settings subject.toValue

def testPlace (chance : Edit.Chance) (place : Int) (expected subject : Name) : Outcome Value :=
  chance.catalogue.answer .assertion "where_value_at"
    [("index", .int place), ("expected", expected.toValue)] subject.toValue

def openRange (place : Int) : List Settings :=
  [[("start", .int place)], [("start", .int place), ("end", .nothing)]]

def closedRange (start stop : Int) : Settings := [("start", .int start), ("end", .int stop)]

def characterText (place : Int) (subject : Name) : String :=
  .ofList (elementAt? place subject.label.toList).toList

section Steps
variable {settings : Settings} (subject : Name) (place : Int)

theorem range_answer {start stop : Value} {first last : Option Int}
    (given : settings.need "start" = .ok start) (bound : settings.either "end" .nothing = stop)
    (complete : Edit.extractedInRange.schema.missing settings = [])
    (bounded : Value.part.bounds start stop = .ok (first, last)) :
    takeRange chance settings subject =
      .ok (.text (.ofList (slice first last subject.label.toList))) := by
  refine answer_made Edit.extractedInRange rfl complete ?_
  simp only [Edit.extractedInRange, Edit.range, given, bound, ok_bind, name_part, bounded]
  rfl

theorem open_answer : ∀ settings ∈ openRange place, takeRange chance settings subject =
    .ok (.text (.ofList (slice (some place) none subject.label.toList))) := by
  simp only [openRange, List.forall_mem_cons, List.not_mem_nil, false_implies, implies_true, and_true]
  exact ⟨range_answer subject rfl rfl rfl rfl, range_answer subject rfl rfl rfl rfl⟩

theorem closed_answer (stop : Int) : takeRange chance (closedRange place stop) subject =
    .ok (.text (.ofList (slice (some place) (some stop) subject.label.toList))) :=
  range_answer subject rfl rfl rfl rfl

theorem itemAt_name {c : Char} (forward : 0 ≤ place)
    (there : subject.label.toList[place.toNat]? = some c) :
    subject.toValue.itemAt (.int place) = .ok (.ofChars [c]) := by
  have whole : Value.wholePlace (.textIndex (Value.int place).faultName) (.int place) = .ok place :=
    wholePlace_iff.mpr rfl
  have picked : Value.pick .textOutOfRange subject.label.toList place = .ok c :=
    (pick_iff forward).mpr there
  rw [name_itemAt, whole, ok_bind, picked]
  rfl

/-- Steps that look for the character at a place compare the place with the ends of the text first. -/
theorem characterText_cases :
    (place < 0 ∧ characterText place subject = "") ∨
    (0 ≤ place ∧ ¬ place < subject.label.toList.length ∧ characterText place subject = "") ∨
    (0 ≤ place ∧ place < subject.label.toList.length ∧
      subject.toValue.itemAt (.int place) = .ok (.text (characterText place subject))) := by
  rcases Int.lt_or_le place 0 with below | forward
  · refine .inl ⟨below, ?_⟩
    rw [characterText, elementAt?_below below]
    rfl
  · rcases Int.lt_or_le place subject.label.toList.length with inside | beyond
    · obtain ⟨c, element, there⟩ := elementAt?_inside forward inside
      refine .inr (.inr ⟨forward, inside, ?_⟩)
      rw [itemAt_name subject place forward there, characterText, element]
      rfl
    · refine .inr (.inl ⟨forward, Int.not_lt.mpr beyond, ?_⟩)
      rw [characterText, elementAt?_beyond beyond]
      rfl

theorem characterAt_answer :
    chance.catalogue.answer .transformation "get_character_at" [("index", .int place)] subject.toValue =
      .ok (.text (characterText place subject)) := by
  have given : Settings.need [("index", .int place)] "index" = .ok (.int place) := rfl
  have whole : (Value.int place).int? = some place := rfl
  refine answer_made Edit.characterAt rfl rfl ?_
  simp only [Edit.characterAt, Edit.charAt, given, ok_bind, atMost_whole, Name.toValue_length,
    less_whole whole]
  rcases characterText_cases subject place with ⟨below, missing⟩ | ⟨forward, beyond, missing⟩ |
    ⟨forward, inside, there⟩
  · simp [below, missing]
  · simp [forward, beyond, missing]
  · simp [forward, inside, there]

theorem nameable_place {name : Name} (place : Int) (expected : Value)
    (tests : name.label = "where_value_at") :
    unnameable .assertion name [("index", .int place), ("expected", expected)] =
      (Value.int place).overlong := by
  simp [unnameable, tests, Settings.get?]

/-- No test passes at a place that has no character. As long as the empty text is not what is expected, this
is to compare with the character as a text. -/
theorem valueAt_answer (written : (Value.int place).overlong = false) {expected : Name}
    (nonempty : expected.label ≠ "") :
    testPlace chance place expected subject =
      .ok (.bool (characterText place subject == expected.label)) := by
  have given : Settings.need [("index", .int place), ("expected", expected.toValue)] "index" =
        .ok (.int place) ∧
      Settings.need [("index", .int place), ("expected", expected.toValue)] "expected" =
        .ok expected.toValue := ⟨rfl, rfl⟩
  have whole : (Value.int place).int? = some place := rfl
  have differs : ("" == expected.label) = false := beq_false_of_ne nonempty.symm
  rw [testPlace, answer_nameable Check.characterIs rfl ((nameable_place place _ rfl).trans written) rfl]
  simp only [Check.characterIs, given, ok_bind, atMost_whole, Name.toValue_length, less_whole whole]
  rcases characterText_cases subject place with ⟨below, missing⟩ | ⟨forward, beyond, missing⟩ |
    ⟨forward, inside, there⟩
  · simp [below, missing, differs, Except.map, Except.mapError]
  · simp [forward, beyond, missing, differs, Except.map, Except.mapError]
  · simp [forward, inside, there, text_same_name, Except.map, Except.mapError]

theorem valueAt_overlong (long : (Value.int place).overlong = true) (expected : Name) :
    testPlace chance place expected subject =
      .error (.operand .unwritableInteger) := by
  have refused := step_named chance.catalogue .assertion (.text "where_value_at")
    [("index", .int place), ("expected", expected.toValue)]
  rw [nameable_place place _ rfl, long, if_pos rfl] at refused
  have text : subject.toValue.isText = true := (isText_iff _).mpr ⟨subject, rfl⟩
  simp only [testPlace, Catalogue.answer, Chain.start, if_pos text, ok_bind, Chain.apply]
  rw [show Value.text "where_value_at" = (Name.text "where_value_at").toValue from rfl, refused]
  rfl

theorem characterText_overlong (long : (Value.int place).overlong = true)
    (held : subject.label.toList.length ≤ Value.indexLimit) : characterText place subject = "" := by
  rcases characterText_cases subject place with ⟨_, missing⟩ | ⟨_, _, missing⟩ | ⟨forward, inside, _⟩
  · exact missing
  · exact missing
  · have beyond := Value.overlong_beyond long
    omega

/-- The range in front of a bound and the range that starts at it make up the text. The character at a place
that is not below zero is the range from this place to the next one, and a place below zero has no
character. The test of the character at a place, with a text to expect that is not empty, passes just if
the character is this text; it cannot be asked for at a place that is too long to be written, where no text
has a character. -/
theorem places_and_ranges_agree (chance : Edit.Chance) : ∃ front back character : String,
    takeRange chance (closedRange 0 place) subject = .ok (.text front) ∧
    (∀ settings ∈ openRange place, takeRange chance settings subject = .ok (.text back)) ∧
    front ++ back = subject.label ∧
    chance.catalogue.answer .transformation "get_character_at" [("index", .int place)] subject.toValue =
      .ok (.text character) ∧
    (0 ≤ place → takeRange chance (closedRange place (place + 1)) subject = .ok (.text character)) ∧
    (place < 0 → character = "") ∧
    ∀ expected : Name, expected.label ≠ "" →
      ((Value.int place).overlong = false → ∃ holds,
        testPlace chance place expected subject = .ok (.bool holds) ∧
        (holds = true ↔ character = expected.label)) ∧
      ((Value.int place).overlong = true →
        testPlace chance place expected subject = .error (.operand .unwritableInteger)) ∧
      (subject.label.toList.length ≤ Value.indexLimit →
        (testPlace chance place expected subject = .ok (.bool true) ↔ character = expected.label)) := by
  refine ⟨_, _, _, closed_answer subject 0 place, open_answer subject place, ?parted,
    characterAt_answer subject place, ?one, ?below, ?test⟩
  case parted => rw [← String.ofList_append, slice_parts, String.ofList_toList]
  case one =>
    intro forward
    rw [closed_answer, slice_one forward]
    rfl
  case below =>
    intro below
    rw [characterText, elementAt?_below below]
    rfl
  case test =>
    intro expected nonempty
    refine ⟨fun written => ⟨_, valueAt_answer subject place written nonempty, beq_iff_eq⟩,
      fun long => valueAt_overlong subject place long expected, fun held => ?_⟩
    -- A place that is too long to be written is behind the end of every text that can be held.
    cases long : (Value.int place).overlong with
    | false =>
        rw [valueAt_answer subject place long nonempty, Except.ok.injEq, Value.bool.injEq, beq_iff_eq]
    | true =>
        rw [valueAt_overlong subject place long, characterText_overlong subject place long held]
        exact ⟨nofun, fun same => absurd same.symm nonempty⟩

example : takeRange .standing (closedRange 0 (-2)) (.text "abcde") = .ok (.text "abc") := rfl

end Steps

end TextChain
