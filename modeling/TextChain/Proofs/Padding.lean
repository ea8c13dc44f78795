import TextChain.Proofs.Gaps
import TextChain.Proofs.LoneSteps
import TextChain.Proofs.Standards

/-!
Padded texts. On one side the fill is repeated and cut to the characters that are missing, so a text gets
exactly the length that was asked for. Around a text the fill is repeated as often as characters are missing
but never cut, and a fill of several characters makes the text too long.
-/

namespace TextChain

variable {chance : Edit.Chance}

/-! ## Borders -/

def lacking (length : Int) (text : List Char) : Nat := (length - text.length).toNat

/-- How many of the missing characters come in front of a text and how many behind it. -/
def Side.shares : Side → Nat → Nat × Nat
  | .start, missing => (missing, 0)
  | .finish, missing => (0, missing)
  | .both, missing => (missing / 2, missing - missing / 2)

def Side.label : Side → String
  | .start => "start"
  | .finish => "end"
  | .both => "both"

def Continues (fill border : List Char) : Prop := ∃ rounds, border <+: repeated rounds fill

/-- The text stands between two borders of the fill, and these share the characters that are missing. -/
structure PaddedTo (side : Side) (fill : List Char) (length : Int) (text result : List Char) : Prop where
  size : (result.length : Int) = max (text.length : Int) length
  bordered : ∃ front back, result = front ++ text ++ back ∧
    (front.length, back.length) = side.shares (lacking length text) ∧
    Continues fill front ∧ Continues fill back

/-- The borders that a text gets: a fill that is cut, or repeated as a whole on both sides. -/
def Side.borders (fill : List Char) : Side → Nat → List Char × List Char
  | .start, missing => ((repeated missing fill).take missing, [])
  | .finish, missing => ([], (repeated missing fill).take missing)
  | .both, missing => (repeated (missing / 2) fill, repeated (missing - missing / 2) fill)

def Side.bordered (fill : List Char) (side : Side) (text : List Char) (missing : Nat) : List Char :=
  (side.borders fill missing).1 ++ text ++ (side.borders fill missing).2

section Borders
variable {side : Side} {fill text : List Char} {length : Int}

theorem repeated_length (rounds : Nat) (text : List Char) :
    (repeated rounds text).length = rounds * text.length := by
  simp [repeated]

theorem cut_length (nonempty : fill ≠ []) (missing : Nat) :
    ((repeated missing fill).take missing).length = missing := by
  have enough : missing ≤ missing * fill.length :=
    Nat.le_mul_of_pos_right missing (List.length_pos_iff.mpr nonempty)
  rw [List.length_take, repeated_length, Nat.min_eq_left enough]

theorem continues_whole (rounds : Nat) : Continues fill (repeated rounds fill) :=
  ⟨rounds, List.prefix_rfl⟩

theorem continues_cut (missing : Nat) : Continues fill ((repeated missing fill).take missing) :=
  ⟨missing, List.take_prefix _ _⟩

theorem continues_nothing : Continues fill [] := ⟨0, List.nil_prefix⟩

theorem borders_continue (missing : Nat) :
    Continues fill (side.borders fill missing).1 ∧ Continues fill (side.borders fill missing).2 := by
  cases side with
  | start => exact ⟨continues_cut missing, continues_nothing⟩
  | finish => exact ⟨continues_nothing, continues_cut missing⟩
  | both => exact ⟨continues_whole _, continues_whole _⟩

theorem borders_shared (nonempty : fill ≠ []) {missing : Nat}
    (cut : side = .both → fill.length = 1 ∨ missing = 0) :
    ((side.borders fill missing).1.length, (side.borders fill missing).2.length) =
      side.shares missing := by
  cases side with
  | start => simp [Side.borders, Side.shares, cut_length nonempty]
  | finish => simp [Side.borders, Side.shares, cut_length nonempty]
  | both =>
      simp only [Side.borders, Side.shares, repeated_length]
      rcases cut rfl with single | nothing
      · rw [single, Nat.mul_one, Nat.mul_one]
      · simp [nothing]

theorem shares_sum (side : Side) (missing : Nat) :
    (side.shares missing).1 + (side.shares missing).2 = missing := by
  cases side with
  | start => rfl
  | finish => exact Nat.zero_add missing
  | both =>
      simp only [Side.shares]
      omega

theorem lacking_sum (length : Int) (text : List Char) :
    ((text.length + lacking length text : Nat) : Int) = max (text.length : Int) length := by
  rw [lacking]
  omega

/-- A text with these borders is padded as it should be just if no fill of several characters is repeated
around it. -/
theorem bordered_paddedTo (nonempty : fill ≠ []) :
    PaddedTo side fill length text (side.bordered fill text (lacking length text)) ↔
      (side = .both → fill.length = 1 ∨ lacking length text = 0) := by
  generalize present : lacking length text = missing
  have target := lacking_sum length text
  rw [present] at target
  constructor
  · rintro ⟨size, _⟩ rfl
    -- The length alone shows it: as many fills were put in as characters are missing.
    simp only [Side.bordered, Side.borders, List.length_append, repeated_length] at size
    have fills : missing * fill.length = missing / 2 * fill.length + (missing - missing / 2) * fill.length := by
      rw [← Nat.add_mul]
      congr 1
      omega
    have once : missing * fill.length = missing * 1 := by omega
    by_cases nothing : missing = 0
    · exact Or.inr nothing
    · exact Or.inl (Nat.eq_of_mul_eq_mul_left (Nat.pos_of_ne_zero nothing) once)
  · intro cut
    have shared := borders_shared nonempty cut
    have sum := shares_sum side missing
    rw [← shared] at sum
    refine ⟨?size, _, _, rfl, present ▸ shared, borders_continue missing⟩
    simp only [Side.bordered, List.length_append] at sum ⊢
    omega

end Borders

/-! ## Fills -/

def Side.rounds : Side → Nat → Nat
  | .both, missing => missing - missing / 2
  | _, missing => missing

def Fits (fill : List Char) (rounds : Nat) : Prop :=
  (fill.length * rounds : Int) ≤ Value.indexLimit

def TooLong {α : Type} (outcome : Outcome α) : Prop :=
  ∃ fault : OperandFault, outcome = .error (.operand fault) ∧ fault.failureClass = .overflow

theorem TooLong.bind {α β : Type} {outcome : Outcome α} (long : TooLong outcome)
    (next : α → Outcome β) : TooLong (outcome >>= next) := by
  obtain ⟨fault, rfl, sort⟩ := long
  exact ⟨fault, rfl, sort⟩

theorem TooLong.logged {α : Type} {outcome : Outcome α} (long : TooLong outcome) :
    TooLong (outcome.mapError Failure.logged) := by
  obtain ⟨fault, rfl, sort⟩ := long
  exact ⟨fault, rfl, sort⟩

section Fills
variable {fill : Name} {rounds : Nat}

theorem label_chars (nonempty : fill.label ≠ "") : fill.label.toList ≠ [] := by
  simpa using nonempty

theorem times_items (fill : Name) (rounds : Int) :
    fill.toValue.times (.int rounds) =
      (Value.repeatItems .textTooLong fill.label.toList rounds).map .ofChars := by
  cases fill <;> rfl

theorem times_fits (nonempty : fill.label ≠ "") (fits : Fits fill.label.toList rounds) :
    fill.toValue.times (.int rounds) = .ok (.ofChars (repeated rounds fill.label.toList)) := by
  have chars := label_chars nonempty
  have fewer : rounds ≤ fill.label.toList.length * rounds :=
    Nat.le_mul_of_pos_left rounds (List.length_pos_iff.mpr chars)
  have short : ¬ Value.indexLimit < fill.label.toList.length * rounds := Int.not_lt.mpr fits
  have counted : ¬ (Value.indexLimit < rounds ∨ (rounds : Int) < -Value.indexLimit - 1) := by
    simp only [Value.indexLimit] at short ⊢
    omega
  rw [times_items, Value.repeatItems]
  simp [chars, counted, short, Except.map]

theorem times_long (nonempty : fill.label ≠ "") (long : ¬ Fits fill.label.toList rounds) :
    TooLong (fill.toValue.times (.int rounds)) := by
  have chars := label_chars nonempty
  rw [Fits, Int.not_le] at long
  rw [times_items, Value.repeatItems]
  by_cases counted : Value.indexLimit < rounds || rounds < -Value.indexLimit - 1
  · rw [if_pos counted]
    exact ⟨_, rfl, rfl⟩
  · rw [if_neg counted, if_neg (by simpa using chars)]
    dsimp only
    rw [if_pos long]
    exact ⟨_, rfl, rfl⟩

theorem fillOf_fits (nonempty : fill.label ≠ "") (fits : Fits fill.label.toList rounds) :
    Edit.fillOf fill.toValue (.int rounds) =
      .ok (.ofChars ((repeated rounds fill.label.toList).take rounds)) := by
  have cut (chars : List Char) :
      (Value.ofChars chars).part .nothing (.int rounds) = .ok (.ofChars (chars.take rounds)) := by
    have first : slice none (some (rounds : Int)) chars = chars.take rounds := by
      have forward : ¬ (rounds : Int) < 0 := by omega
      simp [slice, clampBound, forward, List.take_eq_take_min]
    rw [← first]
    simp [Value.part, Value.ofChars, Value.writing?, Value.part.bounds, Value.sliceBound, Except.map,
      Script.value, Value.int?]
  rw [Edit.fillOf, times_fits nonempty fits, ok_bind, cut]

theorem fillOf_long (nonempty : fill.label ≠ "") (long : ¬ Fits fill.label.toList rounds) :
    TooLong (Edit.fillOf fill.toValue (.int rounds)) :=
  (times_long nonempty long).bind _

end Fills

/-! ## Padding -/

/-- Settings that ask for a length, a fill and a side. They may leave out a blank as the fill and the end
as the side. -/
structure AsksPadding (settings : Settings) (length : Int) (fill : Name) (side : Side) : Prop where
  length : settings.need "length" = .ok (.int length)
  fill : settings.either "char" (.text " ") = fill.toValue
  side : settings.either "where" (.text "end") = .text side.label

section Sides
variable {fill subject : Name} {side : Side} {missing : Nat}

theorem padOn_around (fill subject : Name) (missing : Nat) :
    Edit.padOn .both fill.toValue (.int missing) subject.toValue =
      (fill.toValue.times (.int (missing / 2 : Nat)) >>= fun front =>
        front.plus subject.toValue >>= fun started =>
          fill.toValue.times (.int (missing - missing / 2 : Nat)) >>= fun back =>
            started.plus back) := by
  have halved : (Value.int missing).half = .ok (.int (missing / 2 : Nat)) := rfl
  have rest : (Value.int missing).minus (.int (missing / 2 : Nat)) =
      .ok (.int (missing - missing / 2 : Nat)) := by
    have left : ((missing - missing / 2 : Nat) : Int) = missing - (missing / 2 : Nat) := by omega
    rw [left]
    rfl
  simp only [Edit.padOn, halved, rest, ok_bind]

theorem half_fits {fill : List Char} (fits : Fits fill (missing - missing / 2)) :
    Fits fill (missing / 2) := by
  have fewer : fill.length * (missing / 2) ≤ fill.length * (missing - missing / 2) :=
    Nat.mul_le_mul_left _ (by omega)
  rw [Fits] at fits ⊢
  omega

theorem padOn_fits (nonempty : fill.label ≠ "") (fits : Fits fill.label.toList (side.rounds missing)) :
    Edit.padOn side fill.toValue (.int missing) subject.toValue =
      .ok (.ofChars (side.bordered fill.label.toList subject.label.toList missing)) := by
  have spelled := Name.toValue_chars? subject
  cases side with
  | start =>
      have filled := fillOf_fits nonempty (show Fits fill.label.toList missing from fits)
      simp only [Edit.padOn, Side.bordered, Side.borders, filled, ok_bind,
        plus_spells (ofChars_spells _) spelled, List.append_nil]
  | finish =>
      have filled := fillOf_fits nonempty (show Fits fill.label.toList missing from fits)
      simp only [Edit.padOn, Side.bordered, Side.borders, filled, ok_bind,
        plus_spells spelled (ofChars_spells _), List.nil_append]
  | both =>
      have behind : Fits fill.label.toList (missing - missing / 2) := fits
      simp only [padOn_around, Side.bordered, Side.borders, times_fits nonempty (half_fits behind),
        times_fits nonempty behind, ok_bind, plus_spells (ofChars_spells _) spelled,
        plus_spells (ofChars_spells _) (ofChars_spells _)]

theorem padOn_long (nonempty : fill.label ≠ "") (long : ¬ Fits fill.label.toList (side.rounds missing)) :
    TooLong (Edit.padOn side fill.toValue (.int missing) subject.toValue) := by
  cases side with
  | start => exact (fillOf_long nonempty long).bind _
  | finish => exact (fillOf_long nonempty long).bind _
  | both =>
      rw [padOn_around]
      by_cases front : Fits fill.label.toList (missing / 2)
      · rw [times_fits nonempty front, ok_bind,
          plus_spells (ofChars_spells _) (Name.toValue_chars? subject), ok_bind]
        exact (times_long nonempty long).bind _
      · exact (times_long nonempty front).bind _

end Sides

section Steps
variable {settings : Settings} {length : Int} {fill : Name} {side : Side}

theorem side?_label (side : Side) : Edit.side? (.text side.label) = some side := by
  cases side <;> rfl

/-- A text that lacks nothing stays, and the others are padded. -/
theorem pad_lacking (asked : AsksPadding settings length fill side) (nonempty : fill.label ≠ "")
    (name subject : Name) :
    Edit.pad name settings subject.toValue =
      if lacking length subject.label.toList = 0 then .ok subject.toValue
      else Edit.padOn side fill.toValue (.int (lacking length subject.label.toList)) subject.toValue := by
  have truthful : fill.toValue.truthy = true := by
    cases fill with
    | text s => simpa [Name.toValue, Value.truthy, Name.label] using nonempty
    | preset p => rfl
  have difference : (Value.int length).minus (.int subject.label.toList.length) =
      .ok (.int (length - subject.label.toList.length)) := rfl
  simp only [Edit.pad, asked.length, asked.fill, asked.side, side?_label, Name.toValue_length, ok_bind,
    difference, atMost_whole, truthful]
  -- What is missing is counted as an integer, which is at most zero where a text is long enough.
  by_cases full : length - subject.label.toList.length ≤ 0
  · have nothing : lacking length subject.label.toList = 0 := Int.toNat_eq_zero.mpr full
    simp [full, nothing]
  · have some : lacking length subject.label.toList ≠ 0 := fun nothing =>
      full (Int.toNat_eq_zero.mp nothing)
    have count : (lacking length subject.label.toList : Int) = length - subject.label.toList.length :=
      Int.toNat_of_nonneg (by omega)
    simp [full, some, count]

theorem padding_answer (asked : AsksPadding settings length fill side) (subject : Name) :
    chance.catalogue.answer .transformation "pad" settings subject.toValue =
      (Edit.pad (.text "pad") settings subject.toValue).mapError Failure.logged := by
  have complete : Edit.padded.schema.missing settings = [] := by
    rw [missing_iff]
    intro parameter listed
    obtain rfl := List.mem_singleton.mp listed
    have given := asked.length
    unfold Settings.need at given
    change (settings.get? "length").isSome = true
    cases found : settings.get? "length" with
    | none => simp [found] at given
    | some value => rfl
  exact answer_transformation Edit.padded rfl complete subject

theorem padding_fits (asked : AsksPadding settings length fill side) (nonempty : fill.label ≠ "")
    (subject : Name)
    (fits : Fits fill.label.toList (side.rounds (lacking length subject.label.toList))) :
    ∃ answer, chance.catalogue.answer .transformation "pad" settings subject.toValue = .ok answer ∧
      answer.chars? = some (side.bordered fill.label.toList subject.label.toList
        (lacking length subject.label.toList)) := by
  rw [padding_answer asked, pad_lacking asked nonempty]
  by_cases nothing : lacking length subject.label.toList = 0
  · refine ⟨subject.toValue, by rw [if_pos nothing]; rfl, ?_⟩
    have bare : side.borders fill.label.toList 0 = ([], []) := by
      cases side <;> rfl
    rw [nothing, Side.bordered, bare, Name.toValue_chars?, List.nil_append, List.append_nil]
  · rw [if_neg nothing, padOn_fits nonempty fits]
    exact ⟨_, rfl, ofChars_spells _⟩

theorem padding_long (asked : AsksPadding settings length fill side) (nonempty : fill.label ≠ "")
    (subject : Name)
    (long : ¬ Fits fill.label.toList (side.rounds (lacking length subject.label.toList))) :
    TooLong (chance.catalogue.answer .transformation "pad" settings subject.toValue) := by
  have some : lacking length subject.label.toList ≠ 0 := by
    intro nothing
    apply long
    cases side <;> simp [Fits, nothing, Side.rounds, Value.indexLimit]
  rw [padding_answer asked, pad_lacking asked nonempty, if_neg some]
  exact (padOn_long nonempty long).logged

/-- A text is padded exactly to the length that was asked for, by as many characters on each side as there
should be, unless a fill of several characters is repeated around a text that lacks some. Then there are as
many whole fills as characters are missing. Only fills that would be longer than any text are refused. -/
theorem padding_is_exact_unless_fills_surround (chance : Edit.Chance)
    (asked : AsksPadding settings length fill side) (nonempty : fill.label ≠ "") (subject : Name) :
    (Fits fill.label.toList (side.rounds (lacking length subject.label.toList)) →
      ∃ answer result,
        chance.catalogue.answer .transformation "pad" settings subject.toValue = .ok answer ∧
        answer.chars? = some result ∧
        (PaddedTo side fill.label.toList length subject.label.toList result ↔
          (side = .both →
            fill.label.toList.length = 1 ∨ lacking length subject.label.toList = 0)) ∧
        (side = .both → result =
          repeated (lacking length subject.label.toList / 2) fill.label.toList ++ subject.label.toList ++
            repeated (lacking length subject.label.toList -
              lacking length subject.label.toList / 2) fill.label.toList)) ∧
    (¬ Fits fill.label.toList (side.rounds (lacking length subject.label.toList)) →
      TooLong (chance.catalogue.answer .transformation "pad" settings subject.toValue)) := by
  refine ⟨?padded, padding_long asked nonempty subject⟩
  intro fits
  obtain ⟨answer, answered, spelled⟩ := padding_fits asked nonempty subject fits
  refine ⟨answer, _, answered, spelled, bordered_paddedTo (label_chars nonempty), ?_⟩
  rintro rfl
  rfl

end Steps

def surrounding : Settings :=
  [("length", .int 3), ("char", .text "ab"), ("where", .text "both")]

theorem surrounding_overshoots :
    AsksPadding surrounding 3 (.text "ab") .both ∧ (Name.text "ab").label ≠ "" ∧
      Fits "ab".toList (Side.both.rounds (lacking 3 "x".toList)) ∧
      ∃ answer, Catalogue.builtIn.answer .transformation "pad" surrounding (.text "x") = .ok answer ∧
        answer.chars? = some "abxab".toList ∧ ¬ PaddedTo .both "ab".toList 3 "x".toList "abxab".toList := by
  have asked : AsksPadding surrounding 3 (.text "ab") .both := ⟨rfl, rfl, rfl⟩
  have fits : Fits "ab".toList (Side.both.rounds (lacking 3 "x".toList)) := by
    simp [Fits, lacking, Side.rounds, Value.indexLimit]
  have nonempty : (Name.text "ab").label ≠ "" := by decide
  obtain ⟨answer, result, answered, spelled, exact_iff, whole⟩ :=
    (padding_is_exact_unless_fills_surround .standing asked nonempty (.text "x")).1 fits
  obtain rfl : result = "abxab".toList := whole rfl
  refine ⟨asked, nonempty, fits, answer, answered, spelled, ?_⟩
  intro padded
  exact absurd (exact_iff.mp padded rfl) (by decide)

end TextChain
