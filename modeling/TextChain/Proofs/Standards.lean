import TextChain.Fluent
import TextChain.Proofs.Lookup

/-!
Standard values. A method fills in the standard values of the arguments that a call leaves out; a step
that is recorded under its name has to do without them. The forms of the catalogue take a setting that is
not there as if its standard value were given, so it makes no difference which of the two recorded a step.
-/

namespace TextChain

/-! ## What is told of an outcome -/

def told (outcome : Outcome Value) : Except (FailureClass × String) Value :=
  outcome.mapError fun failure => (failure.failureClass, failure.message)

theorem told_bind {α : Type} (outcome : Outcome α) {first second : α → Outcome Value}
    (alike : ∀ value, told (first value) = told (second value)) :
    told (outcome >>= first) = told (outcome >>= second) := by
  cases outcome with
  | error failure => rfl
  | ok value => exact alike value

/-! ## Settings with standard values filled in -/

def Completes (standard? : String → Option Value) (full given : Settings) : Prop :=
  ∀ name, full.get? name = (given.get? name).or (standard? name)

namespace Completes
variable {standard? : String → Option Value} {full given : Settings} {name : String}

theorem bare (completes : Completes standard? full given) (bare : standard? name = none) :
    full.get? name = given.get? name := by
  rw [completes name, bare, Option.or_none]

theorem need (completes : Completes standard? full given) (bare : standard? name = none) :
    full.need name = given.need name := by
  rw [Settings.need, Settings.need, completes.bare bare]

theorem either (completes : Completes standard? full given) {standard : Value}
    (agrees : (standard? name).getD standard = standard) :
    full.either name standard = given.either name standard := by
  rw [Settings.either, Settings.either, completes name]
  cases given.get? name with
  | none => exact agrees
  | some value => rfl

end Completes

theorem has_iff {settings : Settings} {name : String} :
    settings.has name = (settings.get? name).isSome := by
  rw [Settings.has, Settings.get?, Option.isSome_map, Bool.eq_iff_iff]
  simp

theorem missing_iff {schema : Schema} {settings : Settings} :
    schema.missing settings = [] ↔
      ∀ parameter ∈ schema.required, (settings.get? parameter.name).isSome = true := by
  simp [Schema.missing, has_iff, Option.isSome_iff_ne_none]

namespace Completes
variable {standard? : String → Option Value} {full given : Settings} {schema : Schema}

theorem required (completes : Completes standard? full given) (complete : schema.missing given = [])
    {parameter : Parameter} (listed : parameter ∈ schema.required) :
    full.get? parameter.name = given.get? parameter.name := by
  obtain ⟨value, found⟩ := Option.isSome_iff_exists.mp (missing_iff.mp complete parameter listed)
  rw [completes, found, Option.some_or]

theorem missing (completes : Completes standard? full given) (complete : schema.missing given = []) :
    schema.missing full = [] := by
  refine missing_iff.mpr fun parameter listed => ?_
  rw [completes.required complete listed]
  exact missing_iff.mp complete parameter listed

end Completes

/-! ## Forms -/

def Form.Bears (form : Form) (standard? : String → Option Value) : Prop :=
  ∀ full given, Completes standard? full given → form.schema.missing given = [] →
    ∀ name value, told (form.work name full value) = told (form.work name given value)

section Forms
variable {standard? : String → Option Value}

theorem bears_of_same {form : Form}
    (same : ∀ full given, Completes standard? full given →
      ∀ name value, form.work name full value = form.work name given value) :
    form.Bears standard? :=
  fun full given completes _ name value => congrArg told (same full given completes name value)

theorem plainEdit_bears {label summary : String} {need : Value → Outcome (List Char)}
    {edit : List Char → List Char} : (plainEdit label summary need edit).Bears standard? :=
  bears_of_same fun _ _ _ _ _ => rfl

theorem scriptEdit_bears {label summary method : String} {edit : Script → List Char → List Char} :
    (scriptEdit label summary method edit).Bears standard? :=
  bears_of_same fun _ _ _ _ _ => rfl

theorem plainCheck_bears {label summary : String} {need : Value → Outcome (List Char)}
    {holds : List Char → Bool} : (plainCheck label summary need holds).Bears standard? :=
  bears_of_same fun _ _ _ _ _ => rfl

theorem textCheck_bears {label summary : String} {holds : List Char → Bool} :
    (textCheck label summary holds).Bears standard? :=
  plainCheck_bears

theorem settingCheck_bears {label summary : String} {schema : Schema}
    {holds : Settings → Value → Outcome Bool}
    (same : ∀ full given, Completes standard? full given →
      ∀ value, holds full value = holds given value) :
    (settingCheck label summary schema holds).Bears standard? :=
  bears_of_same fun full given completes _ value =>
    congrArg (Except.map Value.bool) (same full given completes value)

namespace Edit

theorem takeThatAt_bears (index : standard? "index" = none)
    (separator : (standard? "separator").getD .nothing = .nothing) : takeThatAt.Bears standard? :=
  bears_of_same fun full given completes name value => by
    simp only [takeThatAt, partAt, completes.need index, completes.either separator]

theorem joined_bears (separator : (standard? "separator").getD .nothing = .nothing)
    (joiner : (standard? "joiner").getD (.text "") = .text "") : joined.Bears standard? :=
  bears_of_same fun full given completes name value => by
    simp only [joined, completes.either separator, completes.either joiner]

theorem urlSafe_bears : urlSafe.Bears standard? :=
  bears_of_same fun _ _ _ _ _ => rfl

theorem characterAt_bears (index : standard? "index" = none) : characterAt.Bears standard? :=
  bears_of_same fun full given completes name value => by
    simp only [characterAt, charAt, completes.need index]

theorem randomCharacter_bears (chance : Chance) : (randomCharacter chance).Bears standard? :=
  bears_of_same fun _ _ _ _ _ => rfl

theorem randomized_bears (chance : Chance) : (randomized chance).Bears standard? :=
  bears_of_same fun _ _ _ _ _ => rfl

theorem anagram_bears (other : standard? "other" = none) : anagram.Bears standard? :=
  bears_of_same fun full given completes name value => by
    simp only [anagram, mixed, completes.need other]

theorem sanitized_bears (spaces : (standard? "remove_spaces").getD (.bool false) = .bool false)
    (numerals : (standard? "remove_digits").getD (.bool false) = .bool false)
    (special : (standard? "remove_special").getD (.bool false) = .bool false) :
    sanitized.Bears standard? :=
  bears_of_same fun full given completes name value => by
    simp only [sanitized, cleaned, completes.either spaces, completes.either numerals,
      completes.either special]

theorem replaced_bears (search : standard? "search" = none)
    (replacement : standard? "replacement" = none) : replaced.Bears standard? :=
  bears_of_same fun full given completes name value => by
    simp only [replaced, replaceOnce, completes.need search, completes.need replacement]

theorem replacedAll_bears (search : standard? "search" = none)
    (replacement : standard? "replacement" = none) : replacedAll.Bears standard? :=
  bears_of_same fun full given completes name value => by
    simp only [replacedAll, replaceEach, completes.need search, completes.need replacement]

theorem removedFirst_bears (pattern : standard? "pattern" = none) :
    removedFirst.Bears standard? :=
  bears_of_same fun full given completes name value => by
    simp only [removedFirst, removeOnce, completes.need pattern]

theorem removedAll_bears (pattern : standard? "pattern" = none) : removedAll.Bears standard? :=
  bears_of_same fun full given completes name value => by
    simp only [removedAll, removeEach, completes.need pattern]

theorem add_bears (front : (standard? "prefix").getD .nothing = .nothing)
    (back : (standard? "suffix").getD .nothing = .nothing) : add.Bears standard? :=
  bears_of_same fun full given completes name value => by
    simp only [add, added, completes.either front, completes.either back]

theorem padded_bears (length : standard? "length" = none)
    (fill : (standard? "char").getD (.text " ") = .text " ")
    (place : (standard? "where").getD (.text "end") = .text "end") : padded.Bears standard? := by
  intro full given completes _ name value
  simp only [padded, pad, completes.need length, completes.either fill, completes.either place]
  refine told_bind _ fun length => ?_
  cases side? (given.either "where" (.text "end")) with
  | none => exact told_bind _ fun _ => rfl
  | some side => rfl

theorem chunked_bears (size : standard? "size" = none)
    (separator : (standard? "separator").getD (.text "|") = .text "|") : chunked.Bears standard? := by
  intro full given completes _ name value
  simp only [chunked, chunk, completes.need size, completes.either separator]
  refine told_bind _ fun size => told_bind _ fun low => ?_
  cases low with
  | true => exact told_bind _ fun _ => rfl
  | false => rfl

theorem brokenToLines_bears (width : standard? "characters_per_line" = none) :
    brokenToLines.Bears standard? := by
  intro full given completes _ name value
  simp only [brokenToLines, lines, completes.need width]
  refine told_bind _ fun width => told_bind _ fun low => ?_
  cases low with
  | true => exact told_bind _ fun _ => rfl
  | false => rfl

theorem extracted_bears (pattern : standard? "pattern" = none) : extracted.Bears standard? :=
  bears_of_same fun full given completes name value => by
    simp only [extracted, firstMatch, completes.need pattern]

theorem extractedInRange_bears (start : standard? "start" = none)
    (stop : (standard? "end").getD .nothing = .nothing) : extractedInRange.Bears standard? :=
  bears_of_same fun full given completes name value => by
    simp only [extractedInRange, range, completes.need start, completes.either stop]

theorem extractedWhenBetween_bears (opening : standard? "prefix" = none)
    (closing : standard? "suffix" = none) : extractedWhenBetween.Bears standard? :=
  bears_of_same fun full given completes name value => by
    simp only [extractedWhenBetween, enclosed, completes.need opening, completes.need closing]

theorem custom_bears (function : standard? "function" = none) : custom.Bears standard? :=
  bears_of_same fun full given completes name value => by
    simp only [custom, customAnswer, completes.need function]

end Edit

namespace Check

theorem has_bears (part : standard? "substring" = none) : has.Bears standard? :=
  settingCheck_bears fun full given completes value => by
    simp only [holdsPart, completes.need part]

theorem doesNotHave_bears (part : standard? "substring" = none) : doesNotHave.Bears standard? :=
  settingCheck_bears fun full given completes value => by
    simp only [holdsPart, completes.need part]

theorem startsWith_bears (mark : standard? "prefix" = none) : startsWith.Bears standard? :=
  settingCheck_bears fun full given completes value => by
    simp only [begins, completes.need mark]

theorem endsWith_bears (mark : standard? "suffix" = none) : endsWith.Bears standard? :=
  settingCheck_bears fun full given completes value => by
    simp only [ends, completes.need mark]

theorem isExactly_bears (expected : standard? "expected" = none) : isExactly.Bears standard? :=
  settingCheck_bears fun full given completes value => by
    simp only [completes.need expected]

theorem anyOf_bears (values : standard? "values" = none) : anyOf.Bears standard? :=
  settingCheck_bears fun full given completes value => by
    simp only [isAmong, completes.need values]

theorem isBetween_bears (opening : standard? "prefix" = none) (closing : standard? "suffix" = none) :
    isBetween.Bears standard? :=
  settingCheck_bears fun full given completes value => by
    simp only [encloses, completes.need opening, completes.need closing]

theorem hasUniqueCharacters_bears : hasUniqueCharacters.Bears standard? :=
  bears_of_same fun _ _ _ _ _ => rfl

theorem isPhone_bears : isPhone.Bears standard? := by
  intro full given completes complete name value
  have listed : textParameter "preset" "Phone format preset: US, UG, or DEFAULT" (.text "US") ∈
      isPhone.schema.required := List.mem_cons_self
  have preset : full.get? "preset" = given.get? "preset" := completes.required complete listed
  simp only [isPhone, phone, Settings.need, preset]
  refine told_bind _ fun setting => ?_
  cases preset? setting with
  | none => exact told_bind _ fun _ => rfl
  | some preset => rfl

theorem passesRegex_bears (pattern : standard? "pattern" = none) : passesRegex.Bears standard? :=
  settingCheck_bears fun full given completes value => by
    simp only [passes, completes.need pattern]

theorem failsRegex_bears (pattern : standard? "pattern" = none) : failsRegex.Bears standard? :=
  settingCheck_bears fun full given completes value => by
    simp only [passes, completes.need pattern]

theorem withinBound_standard (given : Option Value) {standard : Option Value}
    (nothing : standard.getD .nothing = .nothing) (broken : Value → Outcome Bool) :
    withinBound (given.or standard) broken = withinBound given broken := by
  cases given with
  | some value => rfl
  | none =>
      cases standard with
      | none => rfl
      | some value =>
          cases nothing
          rfl

theorem lengthIs_bears (whole : (standard? "length").getD .nothing = .nothing)
    (least : (standard? "min_length").getD .nothing = .nothing)
    (most : (standard? "max_length").getD .nothing = .nothing) : lengthIs.Bears standard? :=
  settingCheck_bears fun full given completes value => by
    have bounds (length : Value) : withinBounds full length = withinBounds given length := by
      simp only [withinBounds, completes "min_length", completes "max_length",
        withinBound_standard _ least, withinBound_standard _ most]
    simp only [fitsLength, bounds, completes "length"]
    cases given.get? "length" with
    | some value => rfl
    | none =>
        cases standing : standard? "length" with
        | none => rfl
        | some value =>
            rw [standing] at whole
            cases whole
            rfl

theorem anagram_bears (other : standard? "other" = none) : anagram.Bears standard? :=
  settingCheck_bears fun full given completes value => by
    simp only [sameLetters, completes.bare other, completes.need other]

theorem valueAt_bears (index : standard? "index" = none) (expected : standard? "expected" = none) :
    valueAt.Bears standard? :=
  settingCheck_bears fun full given completes value => by
    simp only [characterIs, completes.need index, completes.need expected]

theorem wordCount_bears (count : standard? "count" = none) : wordCount.Bears standard? :=
  settingCheck_bears fun full given completes value => by
    simp only [countsWords, completes.need count]

theorem custom_bears (function : standard? "function" = none) : custom.Bears standard? :=
  bears_of_same fun full given completes name value => by
    simp only [custom, customAnswer, completes.need function]

end Check

end Forms

end TextChain
