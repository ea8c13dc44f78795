import TextChain.Edits
import TextChain.Proofs.Lookup

/-!
Steps that answer texts with texts. The operators that the forms of the catalogue are built from lead from
texts to texts whatever else they are given, except for those that join parts: bytes as a glue make bytes.
No setting asks for bytes. Of the forms that change a text all but one keep to texts.
-/

namespace TextChain

/-! ## Texts and no bytes -/

def Value.NoBytes (value : Value) : Prop := ∀ content, value ≠ .bytes content

def YieldsText (outcome : Outcome Value) : Prop :=
  ∀ answer, outcome = .ok answer → answer.isText = true

theorem ofChars_isText (chars : List Char) : (Value.ofChars chars).isText = true := rfl

theorem name_isText (name : Name) : name.toValue.isText = true :=
  (isText_iff _).mpr ⟨name, rfl⟩

namespace YieldsText

theorem failed (failure : Failure) : YieldsText (.error failure) := by
  rintro _ ⟨⟩

theorem answered {value : Value} (text : value.isText = true) : YieldsText (.ok value) := by
  rintro _ ⟨⟩
  exact text

section Sequence
variable {α : Type} {outcome : Outcome α}

theorem bind {next : α → Outcome Value}
    (each : ∀ value, outcome = .ok value → YieldsText (next value)) : YieldsText (outcome >>= next) := by
  intro answer answered
  obtain ⟨value, first, later⟩ := bind_eq_ok.mp answered
  exact each value first answer later

theorem map {f : α → Value} (each : ∀ value, outcome = .ok value → (f value).isText = true) :
    YieldsText (outcome.map f) := by
  cases outcome with
  | error failure => exact failed failure
  | ok value => exact answered (each value rfl)

end Sequence

theorem ite {condition : Prop} [Decidable condition] {first second : Outcome Value}
    (holds : condition → YieldsText first) (fails : ¬ condition → YieldsText second) :
    YieldsText (if condition then first else second) := by
  by_cases decided : condition
  · rw [if_pos decided]
    exact holds decided
  · rw [if_neg decided]
    exact fails decided

end YieldsText

/-! ## Operators on texts -/

theorem writing_of_text {value : Value} (noBytes : value.NoBytes) {writing : Writing}
    (written : value.writing? = some writing) : writing.script = .text := by
  cases value with
  | bytes content => exact absurd rfl (noBytes content)
  | text s =>
      cases written
      rfl
  | preset p =>
      cases written
      rfl
  | _ => cases written

theorem method_of_text {value : Value} (noBytes : value.NoBytes) {name : String} {writing : Writing}
    (written : value.method name = .ok writing) : writing.script = .text := by
  unfold Value.method at written
  cases found : value.writing? with
  | none => simp [found, refuse] at written
  | some _ =>
      simp only [found, Except.ok.injEq] at written
      exact writing_of_text noBytes (written ▸ found)

theorem name_noBytes (name : Name) : name.toValue.NoBytes := by
  cases name <;> simp [Value.NoBytes, Name.toValue]

theorem joinParts_text {glue : Value} (noBytes : glue.NoBytes) (parts : List Value) :
    YieldsText (Value.joinParts glue parts) := by
  refine .bind fun writing asked => .bind fun texts _ => .answered ?_
  rw [method_of_text noBytes asked]
  exact ofChars_isText _

theorem plus_spells {front back : Value} {first second : List Char}
    (started : front.chars? = some first) (ended : back.chars? = some second) :
    front.plus back = .ok (.ofChars (first ++ second)) := by
  obtain ⟨opening, rfl⟩ := (isText_iff front).mp (Option.isSome_of_eq_some started)
  obtain ⟨closing, rfl⟩ := (isText_iff back).mp (Option.isSome_of_eq_some ended)
  rw [Name.toValue_chars?, Option.some.injEq] at started ended
  cases opening <;> cases closing <;> simp_all [Name.toValue, Value.plus, Value.chars?, Name.label]

theorem ofChars_spells (chars : List Char) : (Value.ofChars chars).chars? = some chars := by
  simp [Value.ofChars, Value.chars?]

theorem name_itemAt (name : Name) (place : Value) : name.toValue.itemAt place =
    (Value.wholePlace (.textIndex place.faultName) place >>= fun n =>
      (Value.pick .textOutOfRange name.label.toList n).map fun c => .ofChars [c]) := by
  cases name <;> rfl

theorem itemAt_text (name : Name) (place : Value) : YieldsText (name.toValue.itemAt place) := by
  rw [name_itemAt]
  exact .bind fun _ _ => .map fun _ _ => ofChars_isText _

theorem name_part (name : Name) (start stop : Value) : name.toValue.part start stop =
    (Value.part.bounds start stop).map fun ends =>
      .ofChars (slice ends.1 ends.2 name.label.toList) := by
  cases name <;> rfl

theorem part_text (name : Name) (start stop : Value) : YieldsText (name.toValue.part start stop) := by
  rw [name_part]
  exact .map fun _ _ => ofChars_isText _

theorem plus_text (name : Name) (value : Value) : YieldsText (name.toValue.plus value) := by
  cases letters : value.chars? with
  | none =>
      have refused : name.toValue.plus value = refuse (.concatenation "str" value.faultName) := by
        cases name <;> cases value <;> first | rfl | cases letters
      rw [refused]
      exact .failed _
  | some chars =>
      have joined : name.toValue.plus value = .ok (.ofChars (name.label.toList ++ chars)) := by
        cases name <;> cases value <;> cases letters <;> rfl
      rw [joined]
      exact .answered (ofChars_isText _)

theorem text_plus (value : Value) (name : Name) : YieldsText (value.plus name.toValue) := by
  by_cases text : value.isText = true
  · obtain ⟨front, rfl⟩ := (isText_iff value).mp text
    exact plus_text front name.toValue
  · -- Numbers, sequences of other kinds and whatever has no sum at all refuse a text behind them.
    have refused : ∃ failure, value.plus name.toValue = .error failure := by
      cases value <;> cases name <;>
        first | exact absurd rfl text | exact ⟨_, rfl⟩
    obtain ⟨failure, refused⟩ := refused
    rw [refused]
    exact .failed failure

theorem subject_script {p : Pattern} {name : Name} {text : List Char}
    (applies : name.toValue.subjectOf p = .ok text) : p.script = .text := by
  simp only [Value.subjectOf, Name.toValue_writing?] at applies
  cases binary : p.binary with
  | false => simp [Pattern.script, binary]
  | true => simp [binary, refuse] at applies

theorem replaceBy_text (p : Pattern) (cuts : List Char → List Search.Cut × List Char)
    (replacement : Value) (name : Name) : YieldsText (p.replaceBy cuts replacement name.toValue) := by
  refine .bind fun _ _ => .bind fun text applies => .bind fun chars _ => .answered ?_
  rw [subject_script applies]
  exact ofChars_isText _

/-! ## Forms -/

/-- No setting that a schema names is given as bytes. -/
def Schema.NoBytes (schema : Schema) (settings : Settings) : Prop :=
  ∀ parameter ∈ schema.parameters, ∀ value, settings.get? parameter.name = some value → value.NoBytes

theorem either_noBytes {schema : Schema} {settings : Settings} (free : schema.NoBytes settings)
    {parameter : Parameter} (listed : parameter ∈ schema.parameters) {standard : Value}
    (noBytes : standard.NoBytes) : (settings.either parameter.name standard).NoBytes := by
  unfold Settings.either
  cases given : settings.get? parameter.name with
  | none => exact noBytes
  | some value => exact free parameter listed value given

theorem need_noBytes {schema : Schema} {settings : Settings} (free : schema.NoBytes settings)
    {parameter : Parameter} (listed : parameter ∈ schema.parameters) {value : Value}
    (given : settings.need parameter.name = .ok value) : value.NoBytes := by
  unfold Settings.need at given
  cases found : settings.get? parameter.name with
  | none => simp [found] at given
  | some _ =>
      simp only [found, Except.ok.injEq] at given
      exact given ▸ free parameter listed _ found

def Form.KeepsTexts (form : Form) : Prop :=
  ∀ (name subject : Name) (settings : Settings), form.schema.NoBytes settings →
    YieldsText (form.work name settings subject.toValue)

namespace Edit

theorem plainEdit_text {label summary : String} {need : Value → Outcome (List Char)}
    {edit : List Char → List Char} : (plainEdit label summary need edit).KeepsTexts :=
  fun _ _ _ _ => .map fun _ _ => ofChars_isText _

theorem scriptEdit_text {label summary method : String} {edit : Script → List Char → List Char} :
    (scriptEdit label summary method edit).KeepsTexts := by
  intro name subject settings _
  refine .map fun writing asked => ?_
  rw [Name.toValue_method] at asked
  cases asked
  exact ofChars_isText _

theorem joined_text : joined.KeepsTexts := by
  intro name subject settings free
  have glue : (settings.either "joiner" (.text "")).NoBytes :=
    either_noBytes free (List.mem_cons_of_mem _ List.mem_cons_self) (name_noBytes (.text ""))
  exact .bind fun parts _ => joinParts_text glue parts

theorem urlSafe_text : urlSafe.KeepsTexts := by
  intro name subject settings _
  cases subject <;> exact .answered (ofChars_isText _)

theorem characterAt_text : characterAt.KeepsTexts := by
  intro name subject settings _
  refine .bind fun place _ => .bind fun reached _ => .ite (fun _ => .answered rfl) fun _ => ?_
  exact .bind fun length _ => .bind fun inside _ =>
    .ite (fun _ => itemAt_text subject place) fun _ => .answered rfl

theorem randomCharacter_text (chance : Chance) : (randomCharacter chance).KeepsTexts := by
  intro name subject settings _
  exact .ite (fun _ => .bind fun _ _ => itemAt_text subject _) fun _ => .answered rfl

theorem randomized_text (chance : Chance) : (randomized chance).KeepsTexts := by
  intro name subject settings _
  have glued (items : List Value) : YieldsText (Value.joinParts (.text "") items) :=
    joinParts_text (name_noBytes (.text "")) items
  cases subject <;> exact .bind fun _ _ => .bind fun items _ => glued (chance.order items)

theorem anagram_text : anagram.KeepsTexts := by
  intro name subject settings _
  refine .bind fun other _ => .bind fun sum added => ?_
  obtain ⟨whole, rfl⟩ := (isText_iff sum).mp (plus_text subject other sum added)
  rw [Name.toValue_chars?]
  exact .answered (ofChars_isText _)

theorem sanitized_text : sanitized.KeepsTexts := by
  intro name subject settings _
  exact .ite (fun _ => .answered (name_isText subject)) fun _ =>
    .bind fun _ _ => .answered (ofChars_isText _)

/-! ### Replacement -/

theorem replaceLiteral_text (search replacement : Value) (subject : Name) :
    YieldsText (replaceLiteral search replacement subject.toValue) := by
  rw [replaceLiteral, Name.toValue_method, ok_bind]
  exact .bind fun _ _ => .bind fun _ _ => .answered (ofChars_isText _)

theorem rejoin_text {glue : Value} (noBytes : glue.NoBytes) (separator value : Value) :
    YieldsText (rejoin glue separator value) :=
  .bind fun _ _ => .bind fun parts _ => joinParts_text noBytes parts

theorem replaced_text : replaced.KeepsTexts := by
  intro name subject settings _
  refine .bind fun search _ => .bind fun replacement _ => ?_
  split
  · exact replaceBy_text _ _ _ subject
  · exact replaceLiteral_text _ _ subject

theorem replacedAll_text : replacedAll.KeepsTexts := by
  intro name subject settings free
  refine .bind fun search _ => .bind fun replacement given => ?_
  split
  · exact replaceBy_text _ _ _ subject
  · exact rejoin_text (need_noBytes free (List.mem_cons_of_mem _ List.mem_cons_self) given) _ _

theorem removedFirst_text : removedFirst.KeepsTexts := by
  intro name subject settings _
  refine .bind fun search _ => ?_
  split
  · exact replaceBy_text _ _ _ subject
  · exact replaceLiteral_text _ _ subject

theorem removedAll_text : removedAll.KeepsTexts := by
  intro name subject settings _
  refine .bind fun search _ => ?_
  split
  · exact replaceBy_text _ _ _ subject
  · exact rejoin_text (name_noBytes (.text "")) _ _

theorem add_text : add.KeepsTexts := by
  intro name subject settings _
  let back := settings.either "suffix" .nothing
  have ended (value : Value) (text : value.isText = true) :
      YieldsText (if back.truthy then value.plus back else .ok value) := by
    obtain ⟨begun, rfl⟩ := (isText_iff value).mp text
    exact .ite (fun _ => plus_text begun back) fun _ => .answered text
  exact .ite (fun _ => .bind fun value fronted => ended value (text_plus _ subject value fronted))
    fun _ => ended _ (name_isText subject)

/-! ### Layout -/

theorem padOn_text (side : Side) (fill missing : Value) (subject : Name) :
    YieldsText (padOn side fill missing subject.toValue) := by
  cases side with
  | start => exact .bind fun front _ => text_plus front subject
  | finish => exact .bind fun back _ => plus_text subject back
  | both =>
      refine .bind fun before _ => .bind fun after _ => .bind fun front _ => .bind fun started begun => ?_
      obtain ⟨started, rfl⟩ := (isText_iff started).mp (text_plus front subject started begun)
      exact .bind fun back _ => plus_text started back

theorem padded_text : padded.KeepsTexts := by
  intro name subject settings _
  refine .bind fun length _ => ?_
  dsimp only
  split
  · exact .bind fun _ _ => .failed _
  · refine .bind fun present _ => .bind fun missing _ => .bind fun full _ => ?_
    exact .ite (fun _ => .answered (name_isText subject)) fun _ => padOn_text _ _ missing subject

theorem piecesWith_text {glue : Value} (noBytes : glue.NoBytes) (size value : Value) :
    YieldsText (piecesWith size glue value) :=
  .bind fun _ _ => .bind fun _ _ => .bind fun _ _ => .bind fun pieces _ =>
    joinParts_text noBytes pieces

theorem chunked_text : chunked.KeepsTexts := by
  intro name subject settings free
  have glue : (settings.either "separator" (.text "|")).NoBytes :=
    either_noBytes free (List.mem_cons_of_mem _ List.mem_cons_self) (name_noBytes (.text "|"))
  exact .bind fun size _ => .bind fun low _ =>
    .ite (fun _ => .bind fun _ _ => .failed _) fun _ => piecesWith_text glue size _

theorem brokenToLines_text : brokenToLines.KeepsTexts := by
  intro name subject settings _
  exact .bind fun width _ => .bind fun low _ =>
    .ite (fun _ => .bind fun _ _ => .failed _) fun _ => piecesWith_text (name_noBytes (.text "\n")) width _

/-! ### Extraction -/

theorem extracted_text : extracted.KeepsTexts := by
  intro name subject settings _
  refine .bind fun setting _ => .bind fun p _ => .bind fun text applies => ?_
  split
  · rw [subject_script applies]
    exact .answered (ofChars_isText _)
  · exact .failed _

theorem extractedInRange_text : extractedInRange.KeepsTexts := by
  intro name subject settings _
  exact .bind fun start _ => part_text subject start _

theorem extractedWhenBetween_text : extractedWhenBetween.KeepsTexts := by
  intro name subject settings _
  refine .bind fun opening _ => .bind fun closing _ => ?_
  rw [Name.toValue_method, ok_bind]
  refine .bind fun first _ => .ite (fun _ => .failed _) fun _ => .bind fun _ _ => .bind fun second _ => ?_
  split
  · exact .answered (ofChars_isText _)
  · exact .failed _

theorem custom_text : custom.KeepsTexts := by
  intro name subject settings _
  refine .bind fun function _ => ?_
  unfold customResult
  split
  · exact .bind fun _ _ => .failed _
  · exact .ite (fun text => .answered text) fun _ => .bind fun _ _ => .failed _

section Chance
variable {chance : Chance} {entry : String × Form} (listed : entry ∈ all chance)
include listed

theorem parameter_types {parameter : Parameter} (named : parameter ∈ entry.2.schema.parameters) :
    parameter.type ∈ [some .text, some .integer, some .flag, some .callable] := by
  let types (chance : Chance) := (all chance).flatMap fun entry => entry.2.schema.parameters.map (·.type)
  -- Chance has no part in the schemas.
  have same : types chance = types .standing := rfl
  have checked : ∀ type ∈ types .standing,
      type ∈ [some .text, some .integer, some .flag, some .callable] := by decide
  refine checked _ (same ▸ List.mem_flatMap.mpr ⟨entry, listed, ?_⟩)
  exact List.mem_map_of_mem named

theorem edit_family : entry.2.family = .transformation := by
  have same : (all chance).map (·.2.family) = (all .standing).map (·.2.family) := rfl
  have checked : ∀ family ∈ (all .standing).map (·.2.family), family = .transformation := by decide
  exact checked _ (same ▸ List.mem_map_of_mem listed)

theorem documented_noBytes {parameter : Parameter}
    (named : parameter ∈ entry.2.schema.parameters) {value : Value}
    (admitted : parameter.admits value = true) : value.NoBytes := by
  rintro content rfl
  unfold Parameter.admits at admitted
  have known := parameter_types listed named
  simp only [List.mem_cons, List.not_mem_nil, or_false] at known
  rcases known with text | integer | flag | callable
  · simp [text, ParameterType.admits, Value.isText, Value.chars?] at admitted
  · simp [integer, ParameterType.admits, Value.int?] at admitted
  · simp [flag, ParameterType.admits] at admitted
  · simp [callable, ParameterType.admits] at admitted

theorem edits_keep_texts : entry.2 = takeThatAt ∨ entry.2.KeepsTexts := by
  revert entry
  simp only [all, List.forall_mem_cons, List.not_mem_nil, false_implies, implies_true, and_true,
    true_or, true_and]
  -- In the order of the catalogue.
  exact ⟨.inr scriptEdit_text, .inr scriptEdit_text, .inr plainEdit_text, .inr plainEdit_text,
    .inr plainEdit_text, .inr scriptEdit_text, .inr joined_text, .inr plainEdit_text,
    .inr plainEdit_text, .inr urlSafe_text, .inr characterAt_text, .inr (randomCharacter_text chance),
    .inr sanitized_text, .inr anagram_text, .inr replaced_text, .inr replacedAll_text,
    .inr removedFirst_text, .inr removedAll_text, .inr add_text, .inr padded_text,
    .inr (randomized_text chance), .inr chunked_text, .inr brokenToLines_text, .inr extracted_text,
    .inr extractedInRange_text, .inr extractedWhenBetween_text, .inr plainEdit_text,
    .inr plainEdit_text, .inr plainEdit_text, .inr custom_text⟩

end Chance

end Edit

end TextChain
