import TextChain.Proofs.Standards
import TextChain.Proofs.KeyErrors

/-!
Settings that a step cannot do without. Each form of the catalogue reads without a fallback only what its
schema requires. With all of that given, and no function in the place of another setting, a step does not
fail on any text for want of a key.
-/

namespace TextChain

def Settings.Quiet (settings : Settings) : Prop :=
  ∀ name value, settings.get? name = some value → name ≠ "function" → value.Idle

def Form.Suffices (form : Form) : Prop :=
  ∀ settings, form.schema.missing settings = [] → settings.Quiet →
    ∀ name subject : Name, MissesNoKey (form.work name settings subject.toValue)

section Needs
variable {schema : Schema} {settings : Settings} {name : String} {value : Value}

theorem needed (complete : schema.missing settings = [])
    (required : name ∈ schema.required.map (·.name)) : MissesNoKey (settings.need name) := by
  obtain ⟨parameter, listed, rfl⟩ := List.mem_map.mp required
  obtain ⟨value, given⟩ := Option.isSome_iff_exists.mp (missing_iff.mp complete parameter listed)
  rw [Settings.need, given]
  exact .answered value

theorem idle_setting (quiet : settings.Quiet) (given : settings.need name = .ok value)
    (silent : name ≠ "function") : value.Idle := by
  unfold Settings.need at given
  split at given
  next found =>
    cases given
    exact quiet name value found silent
  next => cases given

end Needs

theorem text_idle (s : String) : (Value.text s).Idle := nofun

theorem letters_misses (name : Name) : MissesNoKey name.toValue.letters := by
  cases name with
  | text s => exact .answered _
  | preset p => cases p <;> exact .answered _

section Plain
variable {label summary method : String}

theorem plainEdit_suffices {need : Value → Outcome (List Char)} {edit : List Char → List Char}
    (asks : ∀ name : Name, MissesNoKey (need name.toValue)) :
    (plainEdit label summary need edit).Suffices :=
  fun _ _ _ _ subject => .map _ (asks subject)

theorem scriptEdit_suffices {edit : Script → List Char → List Char} :
    (scriptEdit label summary method edit).Suffices :=
  fun _ _ _ _ subject => .map _ (subject.toValue.method_misses method)

theorem plainCheck_suffices {need : Value → Outcome (List Char)} {holds : List Char → Bool}
    (asks : ∀ name : Name, MissesNoKey (need name.toValue)) :
    (plainCheck label summary need holds).Suffices :=
  fun _ _ _ _ subject => .map _ (asks subject)

theorem subject_asks (name : Name) : MissesNoKey name.toValue.subject := name.toValue.subject_misses

theorem textCheck_suffices {holds : List Char → Bool} : (textCheck label summary holds).Suffices :=
  plainCheck_suffices subject_asks

end Plain

namespace Edit

theorem takeThatAt_suffices : takeThatAt.Suffices := by
  intro settings complete quiet name subject
  refine .bind (Value.splitBy_misses _ _) fun parts _ =>
    .bind (needed complete (by decide)) fun place _ => .bind (Value.less_misses _ _ _) fun below _ => ?_
  have taken (beyond : Bool) : MissesNoKey
      (if beyond then .error (.step .indexOutOfRange name.toValue) else Value.itemAt (.list parts) place) := by
    split
    · exact .failed nofun
    · exact Value.itemAt_list_misses _ _
  split
  · exact taken true
  · exact .bind (Value.atLeast_misses _ _) fun beyond _ => taken beyond

theorem joined_suffices : joined.Suffices := by
  intro settings complete quiet name subject
  exact .bind (Value.splitBy_misses _ _) fun parts _ => Value.joinParts_misses _ _

theorem urlSafe_suffices : urlSafe.Suffices := by
  intro settings complete quiet name subject
  cases subject <;> exact .answered _

theorem characterAt_suffices : characterAt.Suffices := by
  intro settings complete quiet name subject
  refine .bind (needed complete (by decide)) fun place _ =>
    .bind (Value.atMost_misses _ _) fun reached _ => ?_
  split
  · exact .answered _
  · refine .bind (Value.length_misses _) fun length _ =>
      .bind (Value.less_misses _ _ _) fun inside _ => ?_
    split
    · exact Value.itemAt_text_misses _ _
    · exact .answered _

theorem Chance.item_misses (chance : Chance) (subject : Name) :
    MissesNoKey (chance.item subject.toValue) := by
  unfold Chance.item
  split
  · exact .bind (Value.length_misses _) fun _ _ => Value.itemAt_text_misses _ _
  · exact .answered _

theorem Chance.shuffled_misses (chance : Chance) (subject : Name) :
    MissesNoKey (chance.shuffled subject.toValue) := by
  unfold Chance.shuffled
  split
  · exact refuse_misses _
  · exact .bind (Value.length_misses _) fun _ _ =>
      .bind (Value.items_misses _) fun _ _ => Value.joinParts_misses _ _

theorem randomCharacter_suffices (chance : Chance) : (randomCharacter chance).Suffices :=
  fun _ _ _ _ subject => chance.item_misses subject

theorem randomized_suffices (chance : Chance) : (randomized chance).Suffices :=
  fun _ _ _ _ subject => chance.shuffled_misses subject

theorem anagram_suffices : anagram.Suffices := by
  intro settings complete quiet name subject
  refine .bind (needed complete (by decide)) fun other _ =>
    .bind (Value.plus_misses _ _) fun sum _ => ?_
  split
  · exact .answered _
  · exact .bind (Value.items_misses _) fun _ _ =>
      .bind (Value.sorted_misses _) fun _ _ => Value.joinParts_misses _ _

theorem sanitized_suffices : sanitized.Suffices := by
  intro settings complete quiet name subject
  change MissesNoKey (cleaned name settings subject.toValue)
  unfold cleaned
  dsimp only
  split
  · exact .answered _
  · exact .bind (Value.subject_misses _) fun _ _ => .answered _

theorem replaceLiteral_misses (search replacement value : Value) :
    MissesNoKey (replaceLiteral search replacement value) :=
  .bind (Value.method_misses _ _) fun _ _ => .bind (Value.replaceArgument_misses _ _ _) fun _ _ =>
    .bind (Value.replaceArgument_misses _ _ _) fun _ _ => .answered _

theorem rejoin_misses (glue separator value : Value) : MissesNoKey (rejoin glue separator value) :=
  .bind (Value.method_misses _ _) fun _ _ => .bind (Value.splitBy_misses _ _) fun _ _ =>
    Value.joinParts_misses _ _

theorem replaced_suffices : replaced.Suffices := by
  intro settings complete quiet name subject
  refine .bind (needed complete (by decide)) fun search _ =>
    .bind (needed complete (by decide)) fun replacement given => ?_
  split
  · exact replaceBy_misses _ (idle_setting quiet given (by decide)) _
  · exact replaceLiteral_misses _ _ _

theorem replacedAll_suffices : replacedAll.Suffices := by
  intro settings complete quiet name subject
  refine .bind (needed complete (by decide)) fun search _ =>
    .bind (needed complete (by decide)) fun replacement given => ?_
  split
  · exact replaceBy_misses _ (idle_setting quiet given (by decide)) _
  · exact rejoin_misses _ _ _

theorem removedFirst_suffices : removedFirst.Suffices := by
  intro settings complete quiet name subject
  refine .bind (needed complete (by decide)) fun search _ => ?_
  split
  · exact replaceBy_misses _ (text_idle "") _
  · exact replaceLiteral_misses _ _ _

theorem removedAll_suffices : removedAll.Suffices := by
  intro settings complete quiet name subject
  refine .bind (needed complete (by decide)) fun search _ => ?_
  split
  · exact replaceBy_misses _ (text_idle "") _
  · exact rejoin_misses _ _ _

theorem add_suffices : add.Suffices := by
  intro settings complete quiet name subject
  have ended (value : Value) : MissesNoKey
      (if (settings.either "suffix" .nothing).truthy then value.plus (settings.either "suffix" .nothing)
        else .ok value) := by
    split
    · exact Value.plus_misses _ _
    · exact .answered _
  change MissesNoKey (added name settings subject.toValue)
  unfold added
  dsimp only
  split
  · exact .bind (Value.plus_misses _ _) fun value _ => ended value
  · exact ended subject.toValue

theorem fillOf_misses (fill missing : Value) : MissesNoKey (fillOf fill missing) :=
  .bind (Value.times_misses _ _) fun _ _ => Value.part_misses _ _ _

theorem padOn_misses (side : Side) (fill missing value : Value) :
    MissesNoKey (padOn side fill missing value) := by
  cases side with
  | start => exact .bind (fillOf_misses _ _) fun _ _ => Value.plus_misses _ _
  | finish => exact .bind (fillOf_misses _ _) fun _ _ => Value.plus_misses _ _
  | both =>
      exact .bind (Value.half_misses _) fun _ _ =>
        .bind (Value.arithmetic_misses _ _ _ _ _) fun _ _ =>
        .bind (Value.times_misses _ _) fun _ _ => .bind (Value.plus_misses _ _) fun _ _ =>
        .bind (Value.times_misses _ _) fun _ _ => Value.plus_misses _ _

theorem padded_suffices : padded.Suffices := by
  intro settings complete quiet name subject
  refine .bind (needed complete (by decide)) fun length _ => ?_
  dsimp only
  split
  · exact .bind (Value.writable_misses _) fun _ _ => .failed nofun
  · refine .bind (Value.length_misses _) fun _ _ => .bind (Value.arithmetic_misses _ _ _ _ _) fun _ _ =>
      .bind (Value.atMost_misses _ _) fun full _ => ?_
    split
    · exact .answered _
    · exact padOn_misses _ _ _ _

theorem piecesWith_misses (size glue value : Value) : MissesNoKey (piecesWith size glue value) :=
  .bind (Value.method_misses _ _) fun _ _ => .bind (Value.length_misses _) fun _ _ =>
    .bind (Value.wholePlace_misses _ _) fun _ _ => .bind (Value.pieces_misses _ _) fun _ _ =>
    Value.joinParts_misses _ _

theorem chunked_suffices : chunked.Suffices := by
  intro settings complete quiet name subject
  refine .bind (needed complete (by decide)) fun size _ =>
    .bind (Value.atMost_misses _ _) fun low _ => ?_
  split
  · exact .bind (Value.writable_misses _) fun _ _ => .failed nofun
  · exact piecesWith_misses _ _ _

theorem brokenToLines_suffices : brokenToLines.Suffices := by
  intro settings complete quiet name subject
  refine .bind (needed complete (by decide)) fun width _ =>
    .bind (Value.atMost_misses _ _) fun low _ => ?_
  split
  · exact .bind (Value.writable_misses _) fun _ _ => .failed nofun
  · exact piecesWith_misses _ _ _

theorem extracted_suffices : extracted.Suffices := by
  intro settings complete quiet name subject
  refine .bind (needed complete (by decide)) fun setting _ =>
    .bind (Value.toPattern_misses _) fun p _ => .bind (Value.subjectOf_misses _ _) fun text _ => ?_
  split
  · exact .answered _
  · exact .failed nofun

theorem extractedInRange_suffices : extractedInRange.Suffices := by
  intro settings complete quiet name subject
  exact .bind (needed complete (by decide)) fun start _ => Value.part_misses _ _ _

theorem extractedWhenBetween_suffices : extractedWhenBetween.Suffices := by
  intro settings complete quiet name subject
  refine .bind (needed complete (by decide)) fun opening _ =>
    .bind (needed complete (by decide)) fun closing _ =>
    .bind (Value.method_misses _ _) fun writing _ => .bind (Value.needle_misses _ _) fun first _ => ?_
  split
  · exact .failed nofun
  · refine .bind (Value.length_misses _) fun _ _ => .bind (Value.needle_misses _ _) fun second _ => ?_
    split
    · exact .answered _
    · exact .failed nofun

theorem failure_writable_misses (failure : Failure) : MissesNoKey failure.writable := by
  rcases failure.writable_cases with written | unwritten
  · rw [written]
    exact .answered _
  · rw [unwritten]
    exact .failed nofun

theorem custom_suffices : custom.Suffices := by
  intro settings complete quiet name subject
  refine .bind (needed complete (by decide)) fun function _ => ?_
  unfold customResult
  split
  · exact .bind (failure_writable_misses _) fun _ _ => .failed nofun
  · split
    · exact .answered _
    · exact .bind (Value.writable_misses _) fun _ _ => .failed nofun

end Edit

namespace Check

theorem settingCheck_suffices {label summary : String} {schema : Schema}
    {holds : Settings → Value → Outcome Bool}
    (asks : ∀ settings, schema.missing settings = [] →
      ∀ subject : Name, MissesNoKey (holds settings subject.toValue)) :
    (settingCheck label summary schema holds).Suffices :=
  fun settings complete _ _ subject => .map _ (asks settings complete subject)

theorem holdsPart_misses {settings : Settings} (complete : substringSchema.missing settings = [])
    (subject : Name) : MissesNoKey (holdsPart settings subject.toValue) :=
  .bind (needed complete (by decide)) fun part _ => Value.holds_misses _ _

theorem has_suffices : has.Suffices :=
  settingCheck_suffices fun _ complete subject => holdsPart_misses complete subject

theorem doesNotHave_suffices : doesNotHave.Suffices :=
  settingCheck_suffices fun _ complete subject => .map _ (holdsPart_misses complete subject)

theorem startsWith_suffices : startsWith.Suffices :=
  settingCheck_suffices fun settings complete subject =>
    .bind (Value.method_misses _ _) fun writing _ => .bind (needed complete (by decide)) fun mark _ =>
      Value.hasAffix_misses _ _ _ _

theorem endsWith_suffices : endsWith.Suffices :=
  settingCheck_suffices fun settings complete subject =>
    .bind (Value.method_misses _ _) fun writing _ => .bind (needed complete (by decide)) fun mark _ =>
      Value.hasAffix_misses _ _ _ _

theorem isExactly_suffices : isExactly.Suffices :=
  settingCheck_suffices fun settings complete subject => .map _ (needed complete (by decide))

theorem anyOf_suffices : anyOf.Suffices :=
  settingCheck_suffices fun settings complete subject =>
    .bind (needed complete (by decide)) fun values _ => Value.holds_misses _ _

theorem isBetween_suffices : isBetween.Suffices := by
  refine settingCheck_suffices fun settings complete subject => ?_
  refine .bind (needed complete (by decide)) fun opening _ =>
    .bind (needed complete (by decide)) fun closing _ =>
    .bind (Value.method_misses _ _) fun writing _ => .bind (Value.needle_misses _ _) fun first _ => ?_
  split
  · exact .answered _
  · exact .bind (Value.length_misses _) fun _ _ =>
      .bind (Value.needle_misses _ _) fun second _ => .answered _

theorem figures_asks (name : Name) : MissesNoKey (figures name.toValue) := by
  refine .bind (Value.method_misses _ _) fun writing _ => ?_
  dsimp only
  split
  · exact .answered _
  · exact Value.subject_misses _

theorem hasUniqueCharacters_suffices : hasUniqueCharacters.Suffices := by
  refine settingCheck_suffices fun settings complete subject => ?_
  unfold isUnique
  rw [Name.toValue_writing?]
  exact .answered _

theorem isPhone_suffices : isPhone.Suffices := by
  intro settings complete quiet name subject
  refine .bind (needed complete (by decide)) fun setting _ => ?_
  split
  next preset _ =>
    refine .map _ ?_
    cases preset with
    | us => exact .map _ (Value.subject_misses _)
    | ug => exact .map _ (Value.subject_misses _)
    | default => exact .answered _
  next => exact .bind (Value.writable_misses _) fun _ _ => .failed nofun

theorem passes_misses {settings : Settings} (complete : patternSchema.missing settings = [])
    (subject : Name) : MissesNoKey (passes settings subject.toValue) :=
  .bind (needed complete (by decide)) fun setting _ => .bind (Value.toPattern_misses _) fun p _ =>
    .bind (Value.subjectOf_misses _ _) fun text _ => .answered _

theorem passesRegex_suffices : passesRegex.Suffices :=
  settingCheck_suffices fun _ complete subject => passes_misses complete subject

theorem failsRegex_suffices : failsRegex.Suffices :=
  settingCheck_suffices fun _ complete subject => .map _ (passes_misses complete subject)

theorem withinBound_misses (setting : Option Value) {broken : Value → Outcome Bool}
    (asks : ∀ bound, MissesNoKey (broken bound)) : MissesNoKey (withinBound setting broken) := by
  unfold withinBound
  split
  · exact .answered _
  · exact .answered _
  · exact .map _ (asks _)

theorem withinBounds_misses (settings : Settings) (length : Value) :
    MissesNoKey (withinBounds settings length) := by
  refine .bind (withinBound_misses _ (Value.less_misses _ _)) fun enough _ => ?_
  split
  · exact withinBound_misses _ (Value.above_misses _)
  · exact .answered _

theorem lengthIs_suffices : lengthIs.Suffices := by
  refine settingCheck_suffices fun settings complete subject => ?_
  refine .bind (Value.length_misses _) fun count _ => ?_
  dsimp only
  split
  · exact withinBounds_misses _ _
  · exact withinBounds_misses _ _
  · exact .answered _

theorem sortedItems_misses (value : Value) : MissesNoKey (sortedItems value) :=
  .bind (Value.items_misses _) fun _ _ => Value.sorted_misses _

theorem anagram_suffices : anagram.Suffices := by
  refine settingCheck_suffices fun settings complete subject => ?_
  unfold sameLetters
  split
  · exact .answered _
  · exact .bind (sortedItems_misses _) fun _ _ => .bind (needed complete (by decide)) fun other _ =>
      .bind (sortedItems_misses _) fun others _ => .answered _

theorem valueAt_suffices : valueAt.Suffices := by
  refine settingCheck_suffices fun settings complete subject => ?_
  refine .bind (needed complete (by decide)) fun place _ =>
    .bind (Value.atMost_misses _ _) fun reached _ => ?_
  split
  · exact .answered _
  · refine .bind (Value.length_misses _) fun length _ =>
      .bind (Value.less_misses _ _ _) fun inside _ => ?_
    split
    · exact .answered _
    · exact .bind (Value.itemAt_text_misses _ _) fun character _ =>
        .bind (needed complete (by decide)) fun expected _ => .answered _

theorem wordCount_suffices : wordCount.Suffices :=
  settingCheck_suffices fun settings complete subject =>
    .bind (Value.wordsOf_misses _) fun words _ =>
      .bind (needed complete (by decide)) fun count _ => .answered _

theorem custom_suffices : custom.Suffices := by
  intro settings complete quiet name subject
  refine .bind (needed complete (by decide)) fun function _ => ?_
  unfold customResult
  split
  · exact .bind (Edit.failure_writable_misses _) fun _ _ => .failed nofun
  · exact .answered _
  · exact .failed nofun

end Check

/-! ## The catalogue -/

/-- Every form of the catalogue makes do with what its schema requires. -/
theorem Edit.Chance.suffices (chance : Edit.Chance) (kind : Kind) :
    ∀ entry ∈ chance.catalogue.entries kind, entry.2.Suffices := by
  cases kind with
  | transformation =>
      simp only [Catalogue.entries, Edit.Chance.catalogue, Edit.all, List.forall_mem_cons,
        List.not_mem_nil, false_implies, implies_true, and_true]
      exact ⟨scriptEdit_suffices, scriptEdit_suffices, plainEdit_suffices subject_asks,
        plainEdit_suffices subject_asks, plainEdit_suffices subject_asks, scriptEdit_suffices,
        Edit.takeThatAt_suffices, Edit.joined_suffices, plainEdit_suffices letters_misses,
        plainEdit_suffices letters_misses, Edit.urlSafe_suffices, Edit.characterAt_suffices,
        Edit.randomCharacter_suffices chance, Edit.sanitized_suffices, Edit.anagram_suffices,
        Edit.replaced_suffices, Edit.replacedAll_suffices, Edit.removedFirst_suffices,
        Edit.removedAll_suffices, Edit.add_suffices, Edit.padded_suffices,
        Edit.randomized_suffices chance, Edit.chunked_suffices, Edit.brokenToLines_suffices,
        Edit.extracted_suffices,
        Edit.extractedInRange_suffices, Edit.extractedWhenBetween_suffices,
        plainEdit_suffices subject_asks, plainEdit_suffices subject_asks,
        plainEdit_suffices letters_misses, Edit.custom_suffices⟩
  | assertion =>
      simp only [Catalogue.entries, Edit.Chance.catalogue, Check.all, List.forall_mem_cons,
        List.not_mem_nil, false_implies, implies_true, and_true]
      exact ⟨Check.has_suffices, Check.doesNotHave_suffices, Check.startsWith_suffices,
        Check.endsWith_suffices, Check.isExactly_suffices, textCheck_suffices, textCheck_suffices,
        textCheck_suffices, textCheck_suffices, textCheck_suffices, textCheck_suffices,
        textCheck_suffices, plainCheck_suffices Check.figures_asks, textCheck_suffices,
        textCheck_suffices, textCheck_suffices, textCheck_suffices, Check.isPhone_suffices,
        plainCheck_suffices Check.figures_asks, Check.passesRegex_suffices,
        Check.failsRegex_suffices, Check.anyOf_suffices, Check.lengthIs_suffices,
        Check.isBetween_suffices, textCheck_suffices, Check.anagram_suffices, textCheck_suffices,
        Check.hasUniqueCharacters_suffices, Check.valueAt_suffices, Check.wordCount_suffices,
        textCheck_suffices, textCheck_suffices, Check.custom_suffices⟩

end TextChain
