import TextChain.Proofs.Escapes
import TextChain.Proofs.Gaps

/-!
Two ways to replace. Where a text is given, its first occurrence is cut out, or the subject is split at all
of them and put together again; where a pattern is given, its hits are taken out one by one. With the pattern
that an escaped text is read as, both ways come to the same.
-/

namespace TextChain

variable {chance : Edit.Chance}

/-! ## Splitting -/

theorem preset_narrow (p : PhonePreset) : ∀ c ∈ p.label.toList, c.toNat ≤ 255 := by
  cases p <;> simp [PhonePreset.label]

/-- A text falls into the parts between the marks. A phone format that is not taken apart holds no mark. -/
theorem splitAtMark_spells (subject : Name) (mark : List Char) :
    (subject.toValue.splitAtMark ⟨.text, subject.label.toList⟩ mark).map Value.chars? =
      (split mark subject.label.toList).map some := by
  have texts : ((split mark subject.label.toList).map Script.text.value).map Value.chars? =
      (split mark subject.label.toList).map some := by
    simp [Script.value, Value.ofChars, Value.chars?, Function.comp_def]
  cases subject with
  | text s => exact texts
  | preset p =>
      simp only [Name.toValue, Name.label, Value.splitAtMark] at texts ⊢
      split
      next unfit =>
        have missing : ¬ mark <:+: p.label.toList := by
          intro within
          rw [Bool.or_eq_true, decide_eq_true_eq, List.any_eq_true] at unfit
          rcases unfit with long | ⟨c, listed, wide⟩
          · have := within.length_le
            rw [String.length_toList] at this
            omega
          · have := preset_narrow p c (within.subset listed)
            rw [decide_eq_true_eq] at wide
            omega
        simp [split_missing missing, Value.chars?]
      next => exact texts

theorem splitBy_mark {mark : Name} (nonempty : mark.label ≠ "") (subject : Name) :
    subject.toValue.splitBy mark.toValue =
      .ok (subject.toValue.splitAtMark ⟨.text, subject.label.toList⟩ mark.label.toList) := by
  have atMark : (subject.toValue.method "split" >>= fun writing =>
      Value.separatorOf writing.script mark.toValue >>= fun chars =>
        .ok (subject.toValue.splitAtMark writing chars)) =
      .ok (subject.toValue.splitAtMark ⟨.text, subject.label.toList⟩ mark.label.toList) := by
    simp only [Name.toValue_method, ok_bind, Value.separatorOf, Value.inScript, Name.toValue_writing?,
      ↓reduceIte]
  unfold Value.splitBy
  -- The mark is neither missing nor empty, and neither of the two is a pattern.
  split
  next nothing => cases mark <;> cases nothing
  next empty =>
    cases mark with
    | text s => exact absurd (Value.text.inj empty) nonempty
    | preset p => cases empty
  next compiled => cases mark <;> cases compiled
  next compiled _ _ _ => cases subject <;> cases compiled
  next => exact atMark

theorem splitBy_literal {mark : List Char} (nonempty : mark ≠ []) (subject : Name) :
    subject.toValue.splitBy (.pattern (literalPattern mark)) =
      .ok ((split mark subject.label.toList).map .ofChars) := by
  have parted : (split mark subject.label.toList).map .ofChars =
      ((literalPattern mark).split subject.label.toList).map (partValue .text) := by
    rw [literal_split nonempty, List.map_map]
    rfl
  have fell : subject.toValue.splitAtHits (literalPattern mark) =
      .ok ((split mark subject.label.toList).map .ofChars) :=
    splitAtHits_iff.mpr ⟨_, literal_subject subject mark, parted⟩
  cases subject <;> exact fell

theorem label_nonempty {name : Name} (nonempty : name.label ≠ "") : name.label.toList ≠ [] := by
  simpa using nonempty

def searchesFor (mark : Name) : List Value :=
  [mark.toValue, .pattern (literalPattern mark.label.toList)]

theorem searches_text (mark : Name) : mark.toValue ∈ searchesFor mark :=
  List.mem_cons_self

theorem searches_pattern (mark : Name) :
    .pattern (literalPattern mark.label.toList) ∈ searchesFor mark :=
  List.mem_cons_of_mem _ List.mem_cons_self

theorem splitBy_spells {mark : Name} (nonempty : mark.label ≠ "") (subject : Name) {search : Value}
    (either : search ∈ searchesFor mark) :
    ∃ parts, subject.toValue.splitBy search = .ok parts ∧
      parts.map Value.chars? = (split mark.label.toList subject.label.toList).map some := by
  rcases List.mem_pair.mp either with rfl | rfl
  · exact ⟨_, splitBy_mark nonempty subject, splitAtMark_spells subject mark.label.toList⟩
  · refine ⟨_, splitBy_literal (label_nonempty nonempty) subject, ?_⟩
    simp [Value.ofChars, Value.chars?, Function.comp_def]

/-! ## Joining -/

theorem joinable_text {value : Value} {chars : List Char} (text : value.chars? = some chars)
    (place : Nat) : Value.joinable .text place value = .ok chars := by
  obtain ⟨name, rfl⟩ := (isText_iff value).mp (Option.isSome_of_eq_some text)
  rw [Name.toValue_chars?, Option.some.injEq] at text
  simp only [Value.joinable, Name.toValue_writing?, ↓reduceIte, text]

theorem joinableFrom_texts {parts : List Value} {texts : List (List Char)}
    (spelled : parts.map Value.chars? = texts.map some) (place : Nat) (done : List (List Char)) :
    Value.joinableFrom .text place done parts = .ok (done.reverse ++ texts) := by
  induction parts generalizing texts place done with
  | nil =>
      obtain rfl : texts = [] := by simpa using spelled
      simp [Value.joinableFrom]
  | cons part rest ih =>
      cases texts with
      | nil => cases spelled
      | cons chars texts =>
          obtain ⟨text, spelled⟩ := List.cons.inj spelled
          rw [Value.joinableFrom, joinable_text text]
          simpa using ih spelled (place + 1) (chars :: done)

theorem joinParts_texts {parts : List Value} {texts : List (List Char)}
    (spelled : parts.map Value.chars? = texts.map some) (glue : Name) :
    Value.joinParts glue.toValue parts = .ok (.ofChars (glue.label.toList.intercalate texts)) := by
  simp only [Value.joinParts, Name.toValue_method, ok_bind, joinableFrom_texts spelled, List.reverse_nil,
    List.nil_append]
  rfl

/-! ## Pieces -/

def MakeUp (text : List Char) (pieces : List Piece) : Prop :=
  ∃ texts : List (List Char), pieces = texts.map .chars ∧ texts.reverse.flatten = text

theorem joinPiecesFrom_chars (script : Script) (place : Nat) (done texts : List (List Char)) :
    joinPiecesFrom script place done (texts.map .chars) = .ok (done.reverse.flatten ++ texts.flatten) := by
  induction texts generalizing place done with
  | nil => simp [joinPiecesFrom]
  | cons text rest ih => simp [joinPiecesFrom, ih]

namespace MakeUp
variable {text : List Char} {pieces : List Piece}

theorem nil : MakeUp [] [] := ⟨[], rfl, rfl⟩

theorem chars (made : MakeUp text pieces) (more : List Char) :
    MakeUp (text ++ more) (.chars more :: pieces) := by
  obtain ⟨texts, rfl, rfl⟩ := made
  exact ⟨more :: texts, rfl, by simp⟩

theorem gap (made : MakeUp text pieces) (gap : List Char) :
    MakeUp (text ++ gap) (gapPieces gap ++ pieces) := by
  cases gap with
  | nil => simpa [gapPieces] using made
  | cons c rest => exact made.chars (c :: rest)

theorem joined (made : MakeUp text pieces) (script : Script) :
    joinPiecesFrom script 0 [] pieces.reverse = .ok text := by
  obtain ⟨texts, rfl, rfl⟩ := made
  rw [← List.map_reverse, joinPiecesFrom_chars]
  rfl

end MakeUp

/-- The gaps between hits, with what is made of the hits in their places. -/
def spliced (make : Hit → List Char) (found : List Search.Cut × List Char) : List Char :=
  found.1.flatMap (fun cut => cut.gap ++ make cut.hit) ++ found.2

section Pieces
variable {script : Script} {replacement : Replacement} {make : Hit → List Char}

theorem piecesFrom_made (written : ∀ hit, replacement.piece script hit = .ok (some (.chars (make hit))))
    {text : List Char} {done : List Piece} (made : MakeUp text done) (cuts : List Search.Cut) :
    ∃ pieces, piecesFrom script replacement done cuts = .ok pieces ∧
      MakeUp (text ++ cuts.flatMap fun cut => cut.gap ++ make cut.hit) pieces := by
  induction cuts generalizing text done with
  | nil => exact ⟨done, rfl, by simpa using made⟩
  | cons cut rest ih =>
      obtain ⟨pieces, gathered, made⟩ := ih ((made.gap cut.gap).chars (make cut.hit))
      refine ⟨pieces, ?_, by simpa using made⟩
      rw [piecesFrom, written]
      exact gathered

theorem substituteCuts_made (written : ∀ hit, replacement.piece script hit = .ok (some (.chars (make hit))))
    (found : List Search.Cut × List Char) :
    substituteCuts script replacement found.1 found.2 = .ok (spliced make found) := by
  obtain ⟨pieces, gathered, made⟩ := piecesFrom_made written .nil found.1
  rw [substituteCuts, gathered, ok_bind, (made.gap found.2).joined]
  rfl

theorem intercalate_gaps (glue : List Char) (gaps : List (List Char)) (last : List Char) :
    glue.intercalate (gaps ++ [last]) = gaps.flatMap (· ++ glue) ++ last := by
  induction gaps with
  | nil => simp
  | cons gap rest ih =>
      rw [List.cons_append, List.intercalate_cons_of_ne_nil (by simp), ih]
      simp

theorem intercalate_empty (parts : List (List Char)) : [].intercalate parts = parts.flatten := by
  induction parts with
  | nil => rfl
  | cons part rest ih =>
      cases rest with
      | nil => simp
      | cons next rest =>
          rw [List.intercalate_cons_cons, ih]
          simp

theorem spliced_constant (new : List Char) (found : List Search.Cut × List Char) :
    spliced (fun _ => new) found = new.intercalate (found.1.map (·.gap) ++ [found.2]) := by
  rw [intercalate_gaps, List.flatMap_map]
  rfl

end Pieces

/-! ## Replacing -/

section Replacing
variable {mark subject new : Name} {search : Value}

theorem replaceLiteral_texts (mark subject new : Name) :
    Edit.replaceLiteral mark.toValue new.toValue subject.toValue =
      .ok (.ofChars (replaceFirst mark.label.toList new.label.toList subject.label.toList)) := by
  simp only [Edit.replaceLiteral, Name.toValue_method, ok_bind, Value.replaceArgument, Value.inScript,
    Name.toValue_writing?, ↓reduceIte]
  rfl

theorem rejoin_texts {parts : List Value} {texts : List (List Char)}
    (fell : subject.toValue.splitBy search = .ok parts)
    (spelled : parts.map Value.chars? = texts.map some) (glue : Name) :
    Edit.rejoin glue.toValue search subject.toValue =
      .ok (.ofChars (glue.label.toList.intercalate texts)) := by
  simp only [Edit.rejoin, Name.toValue_method, ok_bind, fell, joinParts_texts spelled]

theorem toReplacement_plain (plain : '\\' ∉ new.label.toList) (p : Pattern) :
    new.toValue.toReplacement p = .ok (.literal new.toValue) := by
  have unescaped : (!new.label.toList.contains '\\') = true := by simpa using plain
  cases new <;> exact if_pos unescaped

theorem replaceBy_made {p : Pattern} {value : Value} {replacement : Replacement} {make : Hit → List Char}
    (textual : p.binary = false) (read : value.toReplacement p = .ok replacement)
    (written : ∀ hit, replacement.piece .text hit = .ok (some (.chars (make hit))))
    (cuts : List Char → List Search.Cut × List Char) (subject : Name) :
    p.replaceBy cuts value subject.toValue = .ok (.ofChars (spliced make (cuts subject.label.toList))) := by
  have script : p.script = .text := by
    rw [Pattern.script, textual]
    rfl
  have applies : subject.toValue.subjectOf p = .ok subject.label.toList := by
    simp only [Value.subjectOf, Name.toValue_writing?, textual, Bool.false_eq_true, ↓reduceIte]
  simp only [Pattern.replaceBy, read, applies, ok_bind, script, substituteCuts_made written]
  rfl

theorem replaceBy_texts {p : Pattern} (textual : p.binary = false) (plain : '\\' ∉ new.label.toList)
    (cuts : List Char → List Search.Cut × List Char) (subject : Name) :
    p.replaceBy cuts new.toValue subject.toValue =
      .ok (.ofChars (new.label.toList.intercalate
        ((cuts subject.label.toList).1.map (·.gap) ++ [(cuts subject.label.toList).2]))) := by
  have written (hit : Hit) :
      (Replacement.literal new.toValue).piece .text hit = .ok (some (.chars new.label.toList)) := by
    simp [Replacement.piece, Value.piece]
  rw [replaceBy_made textual (toReplacement_plain plain p) written, spliced_constant]

theorem replaceFirst_literal (plain : '\\' ∉ new.label.toList) (text : List Char) (subject : Name) :
    (literalPattern text).replaceFirst new.toValue subject.toValue =
      .ok (.ofChars (replaceFirst text new.label.toList subject.label.toList)) := by
  rw [Pattern.replaceFirst, replaceBy_texts rfl plain, Pattern.firstCut, literal_find?, replaceFirst]
  cases cut? text subject.label.toList <;> simp

theorem replaceAll_literal (plain : '\\' ∉ new.label.toList) {text : List Char} (nonempty : text ≠ [])
    (subject : Name) :
    (literalPattern text).replaceAll new.toValue subject.toValue =
      .ok (.ofChars (new.label.toList.intercalate (split text subject.label.toList))) := by
  rw [Pattern.replaceAll, replaceBy_texts rfl plain, literal_cuts nonempty]

end Replacing

/-! ## Taking a part -/

theorem pick_map {α β : Type} (f : α → β) (fault : OperandFault) (items : List α) (place : Int) :
    (Value.pick fault items place).map f = Value.pick fault (items.map f) place := by
  simp only [Value.pick, ← List.map_reverse, List.getElem?_map]
  by_cases negative : place < 0
  · simp only [if_pos negative]
    cases items.reverse[(-place - 1).toNat]? <;> rfl
  · simp only [if_neg negative]
    cases items[place.toNat]? <;> rfl

theorem itemAt_alike {first second : List Value}
    (alike : first.map Value.chars? = second.map Value.chars?) (place : Value) :
    (Value.itemAt (.list first) place).map Value.chars? =
      (Value.itemAt (.list second) place).map Value.chars? := by
  simp only [Value.itemAt]
  cases Value.wholePlace (.itemIndex "list" place.faultName) place with
  | error failure => rfl
  | ok n => simp only [ok_bind, pick_map, alike]

/-- Which part is taken depends only on what the parts are. -/
theorem partAt_alike {value search other : Value} {first second : List Value}
    (fell : value.splitBy search = .ok first) (fellOther : value.splitBy other = .ok second)
    (alike : first.map Value.chars? = second.map Value.chars?) (name : Name) (index : Value) :
    (Edit.partAt name [("separator", search), ("index", index)] value).map Value.chars? =
      (Edit.partAt name [("separator", other), ("index", index)] value).map Value.chars? := by
  have long : first.length = second.length := by simpa using congrArg List.length alike
  have given (separator : Value) :
      Settings.either [("separator", separator), ("index", index)] "separator" .nothing = separator ∧
        Settings.need [("separator", separator), ("index", index)] "index" = .ok index := ⟨rfl, rfl⟩
  simp only [Edit.partAt, given, fell, fellOther, ok_bind, long]
  cases Value.less "<" index (.int 0) with
  | error failure => rfl
  | ok below =>
      cases below with
      | true => rfl
      | false =>
          simp only [ok_bind, Bool.false_eq_true, ↓reduceIte]
          cases index.atLeast (.int second.length) with
          | error failure => rfl
          | ok beyond =>
              cases beyond with
              | true => rfl
              | false => exact itemAt_alike alike index

/-! ## Both ways -/

theorem mapError_map {α β ε δ : Type} (g : α → β) (f : ε → δ) (outcome : Except ε α) :
    (outcome.mapError f).map g = (outcome.map g).mapError f := by
  cases outcome <;> rfl

section Steps
variable {mark : Name} {search : Value}

theorem replace_answer (either : search ∈ searchesFor mark) {new : Name}
    (plain : '\\' ∉ new.label.toList) (subject : Name) :
    chance.catalogue.answer .transformation "replace"
        [("search", search), ("replacement", new.toValue)] subject.toValue =
      .ok (.ofChars (replaceFirst mark.label.toList new.label.toList subject.label.toList)) := by
  refine answer_made Edit.replaced rfl rfl ?_
  rcases List.mem_pair.mp either with rfl | rfl
  · rw [← replaceLiteral_texts]
    cases mark <;> rfl
  · exact replaceFirst_literal plain _ subject

theorem replace_each_answer (nonempty : mark.label ≠ "") (new subject : Name) :
    chance.catalogue.answer .transformation "replace_all"
        [("search", mark.toValue), ("replacement", new.toValue)] subject.toValue =
      .ok (.ofChars (new.label.toList.intercalate (split mark.label.toList subject.label.toList))) := by
  refine answer_made Edit.replacedAll rfl rfl ?_
  rw [← rejoin_texts (splitBy_mark nonempty subject) (splitAtMark_spells subject mark.label.toList) new]
  cases mark <;> rfl

theorem replace_all_answer (nonempty : mark.label ≠ "") (either : search ∈ searchesFor mark)
    {new : Name} (plain : '\\' ∉ new.label.toList) (subject : Name) :
    chance.catalogue.answer .transformation "replace_all"
        [("search", search), ("replacement", new.toValue)] subject.toValue =
      .ok (.ofChars (new.label.toList.intercalate (split mark.label.toList subject.label.toList))) := by
  rcases List.mem_pair.mp either with rfl | rfl
  · exact replace_each_answer nonempty new subject
  · refine answer_made Edit.replacedAll rfl rfl ?_
    exact replaceAll_literal plain (label_nonempty nonempty) subject

theorem remove_first_answer (either : search ∈ searchesFor mark) (subject : Name) :
    chance.catalogue.answer .transformation "remove_first" [("pattern", search)] subject.toValue =
      .ok (.ofChars (replaceFirst mark.label.toList [] subject.label.toList)) := by
  have plain : '\\' ∉ (Name.text "").label.toList := by simp [Name.label]
  refine answer_made Edit.removedFirst rfl rfl ?_
  rcases List.mem_pair.mp either with rfl | rfl
  · have once := replaceLiteral_texts mark subject (.text "")
    cases mark <;> exact once
  · exact replaceFirst_literal plain _ subject

theorem remove_all_answer (nonempty : mark.label ≠ "") (either : search ∈ searchesFor mark)
    (subject : Name) :
    chance.catalogue.answer .transformation "remove_all" [("pattern", search)] subject.toValue =
      .ok (.ofChars (split mark.label.toList subject.label.toList).flatten) := by
  have plain : '\\' ∉ (Name.text "").label.toList := by simp [Name.label]
  obtain ⟨parts, fell, spelled⟩ := splitBy_spells nonempty subject either
  refine answer_made Edit.removedAll rfl rfl ?_
  rw [← intercalate_empty]
  rcases List.mem_pair.mp either with rfl | rfl
  · have each := rejoin_texts fell spelled (.text "")
    cases mark <;> exact each
  · exact replaceAll_literal plain (label_nonempty nonempty) subject

theorem join_answer (nonempty : mark.label ≠ "") (either : search ∈ searchesFor mark)
    (joiner subject : Name) :
    chance.catalogue.answer .transformation "join"
        [("separator", search), ("joiner", joiner.toValue)] subject.toValue =
      .ok (.ofChars (joiner.label.toList.intercalate
        (split mark.label.toList subject.label.toList))) := by
  obtain ⟨parts, fell, spelled⟩ := splitBy_spells nonempty subject either
  have given : Settings.either [("separator", search), ("joiner", joiner.toValue)] "separator" .nothing =
      search ∧ Settings.either [("separator", search), ("joiner", joiner.toValue)] "joiner" (.text "") =
        joiner.toValue := ⟨rfl, rfl⟩
  refine answer_made Edit.joined rfl rfl ?_
  simp only [Edit.joined, given, fell, ok_bind, joinParts_texts spelled]

theorem part_answer (nonempty : mark.label ≠ "") (index : Value) (subject : Name) :
    (chance.catalogue.answer .transformation "take_that_at"
        [("separator", .pattern (literalPattern mark.label.toList)), ("index", index)]
        subject.toValue).map Value.chars? =
      (chance.catalogue.answer .transformation "take_that_at"
        [("separator", mark.toValue), ("index", index)] subject.toValue).map Value.chars? := by
  obtain ⟨found, fell, spelled⟩ := splitBy_spells nonempty subject (searches_text mark)
  obtain ⟨hit, fellAtHits, spelledHits⟩ := splitBy_spells nonempty subject (searches_pattern mark)
  rw [answer_transformation Edit.takeThatAt rfl rfl,
    answer_transformation Edit.takeThatAt rfl rfl, mapError_map, mapError_map]
  exact congrArg (Except.mapError Failure.logged)
    (partAt_alike fellAtHits fell (spelledHits.trans spelled.symm) _ index)

end Steps

/-- In a subject, what is searched for are the occurrences of a text. They are replaced by what has no
backslash in it, or removed, the first one or all that do not overlap, and the subject falls into what is
left between them. -/
structure Value.ActsAs (chance : Edit.Chance) (search : Value) (text : List Char) (subject : Name) : Prop where
  replaced : ∀ new : Name, '\\' ∉ new.label.toList →
    chance.catalogue.answer .transformation "replace"
        [("search", search), ("replacement", new.toValue)] subject.toValue =
      .ok (.ofChars (replaceFirst text new.label.toList subject.label.toList))
  replacedAll : ∀ new : Name, '\\' ∉ new.label.toList →
    chance.catalogue.answer .transformation "replace_all"
        [("search", search), ("replacement", new.toValue)] subject.toValue =
      .ok (.ofChars (new.label.toList.intercalate (split text subject.label.toList)))
  removedFirst :
    chance.catalogue.answer .transformation "remove_first" [("pattern", search)] subject.toValue =
      .ok (.ofChars (replaceFirst text [] subject.label.toList))
  removedAll :
    chance.catalogue.answer .transformation "remove_all" [("pattern", search)] subject.toValue =
      .ok (.ofChars (split text subject.label.toList).flatten)
  parted : ∃ parts, subject.toValue.splitBy search = .ok parts ∧
    parts.map Value.chars? = (split text subject.label.toList).map some
  joined : ∀ joiner : Name,
    chance.catalogue.answer .transformation "join"
        [("separator", search), ("joiner", joiner.toValue)] subject.toValue =
      .ok (.ofChars (joiner.label.toList.intercalate (split text subject.label.toList)))

theorem search_acts {mark : Name} (nonempty : mark.label ≠ "") {search : Value}
    (either : search ∈ searchesFor mark) (subject : Name) :
    search.ActsAs chance mark.label.toList subject where
  replaced _ plain := replace_answer either plain subject
  replacedAll _ plain := replace_all_answer nonempty either plain subject
  removedFirst := remove_first_answer either subject
  removedAll := remove_all_answer nonempty either subject
  parted := splitBy_spells nonempty subject either
  joined joiner := join_answer nonempty either joiner subject

/-- Whether a text or the pattern of the escaped text is given makes no difference, unless the text is empty.
Both act as the text in every subject, and of the parts that they leave the same one is taken at a place, or
the step fails in the same way. -/
theorem text_and_pattern_replace_alike (chance : Edit.Chance) (mark : Name) (nonempty : mark.label ≠ "") :
    ∃ escaped p, chance.catalogue.answer .transformation "escape_string" [] mark.toValue =
        .ok (.text escaped) ∧
      (Value.text escaped).toPattern = .ok p ∧
      ∀ subject : Name,
        mark.toValue.ActsAs chance mark.label.toList subject ∧
        (Value.pattern p).ActsAs chance mark.label.toList subject ∧
        ∀ index,
          (chance.catalogue.answer .transformation "take_that_at"
              [("separator", .pattern p), ("index", index)] subject.toValue).map Value.chars? =
            (chance.catalogue.answer .transformation "take_that_at"
              [("separator", mark.toValue), ("index", index)] subject.toValue).map
                Value.chars? := by
  refine ⟨_, literalPattern mark.label.toList, escape_answer mark, escaped_toPattern _, ?_⟩
  intro subject
  exact ⟨search_acts nonempty (searches_text mark) subject,
    search_acts nonempty (searches_pattern mark) subject, fun index => part_answer nonempty index subject⟩

theorem doubled_marks_replaced :
    ∃ escaped p, Catalogue.builtIn.answer .transformation "escape_string" [] (.text "++") =
        .ok (.text escaped) ∧
      (Value.text escaped).toPattern = .ok p ∧
      ∀ search ∈ [.text "++", .pattern p],
        Catalogue.builtIn.answer .transformation "replace_all"
          [("search", search), ("replacement", .text "x")] (.text "+++-++") = .ok (.text "x+-x") := by
  obtain ⟨escaped, p, made, read, alike⟩ :=
    text_and_pattern_replace_alike .standing (.text "++") (by simp [Name.label])
  obtain ⟨byText, byPattern, _⟩ := alike (.text "+++-++")
  have plain : '\\' ∉ (Name.text "x").label.toList := by simp [Name.label]
  refine ⟨escaped, p, made, read, ?_⟩
  intro search either
  rcases List.mem_pair.mp either with rfl | rfl
  · exact byText.replacedAll (.text "x") plain
  · exact byPattern.replacedAll (.text "x") plain

end TextChain
