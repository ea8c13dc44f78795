import TextChain.Proofs.LiteralPatterns
import TextChain.Proofs.LoneSteps
import TextChain.Proofs.Standards

/-!
Escaped texts. A text with its marks escaped can be taken back, and as a pattern it finds the text itself
and nothing else.
-/

namespace TextChain

open Editing

variable {chance : Edit.Chance}

/-! ## Taking escapes back -/

theorem unescapeFrom_token (done : List Char) (c : Char) (rest : List Char) :
    unescapeFrom done false ((escapedToken c).text ++ rest) = unescapeFrom (c :: done) false rest := by
  cases marked : isMark c with
  | true =>
      rw [escapedToken_mark marked]
      simp [Token.text, unescapeFrom, marked]
  | false =>
      rw [escapedToken_plain marked]
      simp [Token.text, unescapeFrom, unmarked_backslash marked]

theorem unescapeFrom_escape (done text : List Char) :
    unescapeFrom done false (escapeMarks text) = done.reverse ++ text := by
  -- After each character that was escaped no backslash is pending.
  induction text generalizing done with
  | nil => simp [escapeMarks, unescapeFrom]
  | cons c rest ih =>
      rw [escapeMarks_cons, unescapeFrom_token, ih, List.reverse_cons, List.append_assoc]
      rfl

theorem unescape_escape (text : List Char) : unescapeMarks (escapeMarks text) = text :=
  unescapeFrom_escape [] text

theorem escape_answer (name : Name) :
    chance.catalogue.answer .transformation "escape_string" [] name.toValue =
      .ok (.ofChars (escapeMarks name.label.toList)) := by
  rw [answer_transformation Edit.escaped rfl rfl]
  cases name <;> rfl

theorem unescape_answer (name : Name) :
    chance.catalogue.answer .transformation "un_escape_string" [] name.toValue =
      .ok (.ofChars (unescapeMarks name.label.toList)) := by
  rw [answer_transformation Edit.unescaped rfl rfl]
  cases name <;> rfl

/-- Every text comes back when it is escaped and the escapes are taken away again. -/
theorem escapes_are_undone (chance : Edit.Chance) (name : Name) :
    ∃ escaped, chance.catalogue.answer .transformation "escape_string" [] name.toValue =
        .ok (.text escaped) ∧
      chance.catalogue.answer .transformation "un_escape_string" [] (.text escaped) =
        .ok (.text name.label) := by
  refine ⟨String.ofList (escapeMarks name.label.toList), escape_answer name, ?_⟩
  have undone := @unescape_answer chance (.text (String.ofList (escapeMarks name.label.toList)))
  simpa [Name.toValue, Name.label, unescape_escape, Value.ofChars] using undone

/-! ## Escaped texts as patterns -/

theorem escaped_toPattern (text : List Char) :
    (Value.ofChars (escapeMarks text)).toPattern = .ok (literalPattern text) := by
  have taken : (Value.ofChars (escapeMarks text)).toPattern =
      (Pattern.ofText? {} (String.ofList (escapeMarks text)).toList).mapError .pattern := rfl
  rw [taken, String.toList_ofList, read_escaped]
  rfl

@[simp] theorem literal_script (text : List Char) : (literalPattern text).script = .text := rfl

theorem literal_subject (subject : Name) (text : List Char) :
    subject.toValue.subjectOf (literalPattern text) = .ok subject.label.toList := by
  cases subject <;> rfl

theorem has_answer (mark subject : Name) :
    chance.catalogue.answer .assertion "has" [("substring", mark.toValue)] subject.toValue =
      .ok (.bool (occursIn mark.label.toList subject.label.toList)) := by
  rw [answer_check Check.holdsPart rfl (by decide) rfl]
  cases mark <;> cases subject <;> rfl

section Reading
variable {pattern : Value} {mark : List Char}

theorem passes_answer (read : pattern.toPattern = .ok (literalPattern mark)) (subject : Name) :
    chance.catalogue.answer .assertion "passes_regex" [("pattern", pattern)] subject.toValue =
      .ok (.bool (occursIn mark subject.label.toList)) := by
  have given : Settings.need [("pattern", pattern)] "pattern" = .ok pattern := rfl
  rw [answer_check Check.passes rfl (by decide) rfl]
  simp only [Check.passes, given, read, literal_subject, ok_bind, literal_find?, Option.isSome_map]
  rfl

theorem extract_answer (read : pattern.toPattern = .ok (literalPattern mark)) (subject : Name) :
    chance.catalogue.answer .transformation "extract" [("pattern", pattern)] subject.toValue =
      if occursIn mark subject.label.toList then .ok (.ofChars mark)
      else .error (.step .noMatch (.text "extract")) := by
  have given : Settings.need [("pattern", pattern)] "pattern" = .ok pattern := rfl
  have found := literal_find? mark subject.label.toList
  rw [answer_transformation Edit.extracted rfl rfl, occursIn]
  simp only [Edit.extracted, Edit.firstMatch, given, read, literal_subject, ok_bind]
  cases stands : cut? mark subject.label.toList with
  | none =>
      rw [stands] at found
      simp [found, Name.toValue, Except.mapError]
      rfl
  | some parts =>
      rw [stands] at found
      simp [found, literal_script, Script.value, Except.mapError]

end Reading

/-- An escaped text is always accepted as a pattern. Given as it is or ready to be searched for, this pattern
is found in a subject just if the text that was escaped is a part of it, as a test for that part says too.
Then it extracts the text that was escaped, and otherwise the step complains that there is no match. -/
theorem escaped_pattern_finds_the_text (chance : Edit.Chance) (mark : Name) :
    ∃ escaped p, chance.catalogue.answer .transformation "escape_string" [] mark.toValue =
        .ok (.text escaped) ∧
      (Value.text escaped).toPattern = .ok p ∧
      ∀ pattern ∈ [.text escaped, .pattern p], ∀ subject : Name, ∃ found : Bool,
        (found = true ↔ mark.label.toList <:+: subject.label.toList) ∧
        chance.catalogue.answer .assertion "has" [("substring", mark.toValue)] subject.toValue =
          .ok (.bool found) ∧
        chance.catalogue.answer .assertion "passes_regex" [("pattern", pattern)] subject.toValue =
          .ok (.bool found) ∧
        told (chance.catalogue.answer .transformation "extract" [("pattern", pattern)]
            subject.toValue) =
          if found then .ok (.text mark.label) else .error (.kind .step, "No match found") := by
  refine ⟨_, literalPattern mark.label.toList, escape_answer mark, escaped_toPattern _, ?_⟩
  intro pattern either subject
  have read : pattern.toPattern = .ok (literalPattern mark.label.toList) := by
    rcases List.mem_pair.mp either with rfl | rfl
    · exact escaped_toPattern _
    · rfl
  refine ⟨_, occursIn_iff, has_answer mark subject, passes_answer read subject, ?_⟩
  rw [extract_answer read]
  by_cases there : occursIn mark.label.toList subject.label.toList = true
  · simp [there, told, Value.ofChars, Except.mapError]
  · rw [if_neg there, if_neg there]
    rfl

end TextChain
