import TextChain.Proofs.Replacements

/-!
Splitting at a text. A text is cut at the first occurrence of a mark, and what is behind it is cut again. No
part holds the mark, and the text is put together again from its parts with the mark between them. The
steps that take a part, join the parts with something else or replace the mark rest on these cuts.
-/

namespace TextChain

variable {chance : Edit.Chance}

/-! ## Cuts -/

/-- A text falls into parts at a mark: it is cut at the first occurrence, and what is behind it falls into
the other parts. -/
inductive CutsInto {α : Type} (mark : List α) : List α → List (List α) → Prop
  | whole {text : List α} (missing : ¬ mark <:+: text) : CutsInto mark text [text]
  | cut {text before after : List α} {parts : List (List α)} (first : FirstCut mark text before after)
      (behind : CutsInto mark after parts) : CutsInto mark text (before :: parts)

section Cuts
variable {α : Type} {mark text before after : List α} {parts : List (List α)}

theorem FirstCut.shorter (cut : FirstCut mark text before after) (nonempty : mark ≠ []) :
    after.length < text.length := by
  have := List.length_pos_iff.mpr nonempty
  rw [cut.whole, List.length_append, List.length_append]
  omega

theorem FirstCut.before_free (cut : FirstCut mark text before after) (nonempty : mark ≠ []) :
    ¬ mark <:+: before := by
  rintro ⟨earlier, later, rfl⟩
  have := List.length_pos_iff.mpr nonempty
  have least := cut.first earlier (later ++ mark ++ after) (by simp [cut.whole])
  simp only [List.length_append] at least
  omega

theorem FirstCut.passes {c : α} (cut : FirstCut mark text (c :: before) after) : ¬ mark <+: text := by
  rintro ⟨later, rfl⟩
  exact absurd (cut.first [] later rfl) (Nat.not_succ_le_zero _)

theorem FirstCut.tail {c : α} (cut : FirstCut mark (c :: text) (c :: before) after) :
    FirstCut mark text before after where
  whole := (List.cons.inj cut.whole).2
  first := by
    rintro earlier later rfl
    exact Nat.le_of_succ_le_succ (cut.first (c :: earlier) later rfl)

namespace CutsInto

theorem nonempty (cuts : CutsInto mark text parts) : parts ≠ [] := by
  cases cuts <;> exact List.cons_ne_nil _ _

theorem free (cuts : CutsInto mark text parts) (nonempty : mark ≠ []) :
    ∀ part ∈ parts, ¬ mark <:+: part := by
  induction cuts with
  | whole missing => simpa using missing
  | cut first behind ih => exact List.forall_mem_cons.mpr ⟨first.before_free nonempty, ih⟩

theorem joined (cuts : CutsInto mark text parts) : mark.intercalate parts = text := by
  induction cuts with
  | whole missing => simp
  | cut first behind ih => rw [List.intercalate_cons_of_ne_nil behind.nonempty, ih, first.whole]

end CutsInto

end Cuts

/-! ## Splitting -/

section Splitting
variable {α : Type} [BEq α]

theorem splitFrom_parts (mark : List α) (parts : List (List α)) (skip : Nat) (part text : List α) :
    splitFrom mark parts skip part text = parts.reverse ++ splitFrom mark [] skip part text := by
  induction text generalizing parts skip part with
  | nil => simp [splitFrom]
  | cons c rest ih =>
      cases skip with
      | succ n => exact ih parts n part
      | zero =>
          simp only [splitFrom]
          split
          · rw [ih (part.reverse :: parts), ih [part.reverse], List.reverse_cons, List.append_assoc]
            rfl
          · exact ih parts 0 (c :: part)

theorem splitFrom_skipped (mark passed part rest : List α) :
    splitFrom mark [] passed.length part (passed ++ rest) = splitFrom mark [] 0 part rest := by
  induction passed with
  | nil => rfl
  | cons c passed ih => exact ih

variable [LawfulBEq α] {mark text before after : List α}

theorem splitFrom_cut (nonempty : mark ≠ []) (cut : FirstCut mark text before after) (part : List α) :
    splitFrom mark [] 0 part text = (part.reverse ++ before) :: splitFrom mark [] 0 [] after := by
  -- What stands before the first occurrence is read character by character.
  induction before generalizing text part with
  | nil =>
      obtain ⟨x, inside, rfl⟩ := List.exists_cons_of_ne_nil nonempty
      have here : startsWith (x :: inside) (x :: (inside ++ after)) = true :=
        startsWith_iff.mpr (List.prefix_append (x :: inside) after)
      rw [cut.whole, List.nil_append, List.cons_append, splitFrom, if_pos here, splitFrom_parts,
        List.length_cons, Nat.add_sub_cancel, splitFrom_skipped, List.append_nil]
      rfl
  | cons c before ih =>
      obtain ⟨rest, rfl⟩ : ∃ rest, text = c :: rest := ⟨_, cut.whole⟩
      rw [splitFrom, if_neg (startsWith_iff.not.mpr cut.passes), ih cut.tail, List.reverse_cons,
        List.append_assoc]
      rfl

theorem split_cut (nonempty : mark ≠ []) (cut : FirstCut mark text before after) :
    split mark text = before :: split mark after := by
  have marked : mark.isEmpty = false := by simpa using nonempty
  simp only [split, marked]
  exact splitFrom_cut nonempty cut []

theorem split_cuts (nonempty : mark ≠ []) (text : List α) : CutsInto mark text (split mark text) := by
  by_cases occurs : mark <:+: text
  · obtain ⟨⟨before, after⟩, found⟩ := Option.isSome_iff_exists.mp (occursIn_iff.mpr occurs)
    have first : FirstCut mark text before after := cut?_iff.mp found
    have shorter := first.shorter nonempty
    rw [split_cut nonempty first]
    exact .cut first (split_cuts nonempty after)
  · rw [split_missing occurs]
    exact .whole occurs
termination_by text.length

theorem CutsInto.split_eq {parts : List (List α)} (cuts : CutsInto mark text parts) (nonempty : mark ≠ []) :
    split mark text = parts := by
  induction cuts with
  | whole missing => exact split_missing missing
  | cut first behind ih => rw [split_cut nonempty first, ih]

end Splitting

/-! ### Marks apart -/

section Marks
variable {α : Type} {mark : α} {inside : List α}

theorem firstCut_free {before : List α} (free : mark ∉ before) (after : List α) :
    FirstCut (mark :: inside) (before ++ mark :: inside ++ after) before after where
  whole := rfl
  first := by
    intro earlier later whole
    by_contra short
    rw [Nat.not_le] at short
    have here : (before ++ mark :: inside ++ after)[earlier.length]? = some mark := by simp [whole]
    rw [List.append_assoc, List.getElem?_append_left short] at here
    exact free (List.mem_of_getElem? here)

theorem intercalated_cuts {parts : List (List α)} (nonempty : parts ≠ [])
    (free : ∀ part ∈ parts, mark ∉ part) :
    CutsInto (mark :: inside) ((mark :: inside).intercalate parts) parts := by
  induction parts with
  | nil => exact absurd rfl nonempty
  | cons part parts ih =>
      obtain ⟨first, others⟩ := List.forall_mem_cons.mp free
      by_cases last : parts = []
      · subst last
        rw [List.intercalate_singleton]
        exact .whole fun occurs => first (occurs.subset List.mem_cons_self)
      · rw [List.intercalate_cons_of_ne_nil last]
        exact .cut (firstCut_free first _) (ih last others)

end Marks

/-! ## Steps -/

def noSeparator : List Settings :=
  [[], [("separator", .nothing)], [("separator", .text "")]]

def characters (subject : Name) : List Value :=
  subject.label.toList.map fun c => .ofChars [c]

/-- A step with the separator takes the part at a place where there is one, and complains about every other
index. -/
structure TakesParts (chance : Edit.Chance) (separator : Settings) (subject : Name)
    (parts : List Value) : Prop where
  inside : ∀ (place : Nat) (part : Value), parts[place]? = some part →
    chance.catalogue.answer .transformation "take_that_at" (("index", .int place) :: separator)
      subject.toValue = .ok part
  outside : ∀ index : Int, index < 0 ∨ parts.length ≤ index →
    told (chance.catalogue.answer .transformation "take_that_at" (("index", .int index) :: separator)
      subject.toValue) = .error (.kind .step, "Index out of range")

section Steps
variable {separator : Settings} {subject : Name} {parts : List Value}

theorem noSeparator_splits (bare : separator ∈ noSeparator) (subject : Name) :
    subject.toValue.splitBy (separator.either "separator" .nothing) = .ok (characters subject) := by
  have fell : subject.toValue.items = .ok (characters subject) := by cases subject <;> rfl
  simp only [noSeparator, List.mem_cons, List.not_mem_nil, or_false] at bare
  rcases bare with rfl | rfl | rfl <;> exact fell

theorem characters_spell (subject : Name) :
    (characters subject).map Value.chars? = (subject.label.toList.map fun c => [c]).map some := by
  simp [characters, Value.ofChars, Value.chars?]

theorem partAt_outside {name : Name} {settings : Settings} {index : Int}
    (fell : subject.toValue.splitBy (settings.either "separator" .nothing) = .ok parts)
    (given : settings.need "index" = .ok (.int index)) (outside : index < 0 ∨ parts.length ≤ index) :
    Edit.partAt name settings subject.toValue = .error (.step .indexOutOfRange name.toValue) := by
  have whole : (Value.int index).int? = some index := rfl
  simp only [Edit.partAt, fell, given, ok_bind, less_whole whole, atLeast_whole whole]
  rcases outside with below | beyond
  · rw [decide_eq_true below]
    rfl
  · have forward : ¬ index < 0 := by omega
    rw [decide_eq_false forward, if_neg Bool.false_ne_true, decide_eq_true beyond]
    rfl

theorem takesParts_split
    (fell : subject.toValue.splitBy (separator.either "separator" .nothing) = .ok parts) :
    TakesParts chance separator subject parts := by
  have asked (index : Value) : subject.toValue.splitBy
      (Settings.either (("index", index) :: separator) "separator" .nothing) = .ok parts := by
    have other : Settings.get? (("index", index) :: separator) "separator" =
        separator.get? "separator" := get?_cons _ _ _
    rwa [Settings.either, other]
  constructor
  case inside =>
    intro place part there
    refine answer_made Edit.takeThatAt rfl rfl ?_
    exact partAt_iff.mpr ⟨parts, .int place, place, asked _, rfl, rfl, Int.natCast_nonneg place, there⟩
  case outside =>
    intro index outside
    have failed : Edit.partAt (.text "take_that_at") (("index", .int index) :: separator) subject.toValue =
        .error (.step .indexOutOfRange (.text "take_that_at")) := partAt_outside (asked _) rfl outside
    rw [answer_transformation Edit.takeThatAt rfl rfl]
    exact congrArg (fun outcome => told (outcome.mapError Failure.logged)) failed

theorem join_split {texts : List (List Char)}
    (fell : subject.toValue.splitBy (separator.either "separator" .nothing) = .ok parts)
    (spelled : parts.map Value.chars? = texts.map some) (joiner : Name) :
    chance.catalogue.answer .transformation "join" (("joiner", joiner.toValue) :: separator)
      subject.toValue = .ok (.ofChars (joiner.label.toList.intercalate texts)) := by
  have asked : Settings.either (("joiner", joiner.toValue) :: separator) "separator" .nothing =
      separator.either "separator" .nothing := by
    rw [Settings.either, get?_cons]
    rfl
  have given : Settings.either (("joiner", joiner.toValue) :: separator) "joiner" (.text "") =
      joiner.toValue := rfl
  refine answer_made Edit.joined rfl rfl ?_
  simp only [Edit.joined, asked, given, fell, ok_bind, joinParts_texts spelled]

theorem join_bare (bare : separator ∈ noSeparator) (subject : Name) :
    chance.catalogue.answer .transformation "join" (("joiner", .text "") :: separator)
      subject.toValue = .ok (.text subject.label) := by
  have joined := @join_split chance _ _ _ _ (noSeparator_splits bare subject) (characters_spell subject)
    (.text "")
  have together : (subject.label.toList.map fun c => [c]).flatten = subject.label.toList := by
    rw [← List.flatMap_def, List.flatMap_singleton']
  rwa [Name.label, String.toList_empty, intercalate_empty, together, Value.ofChars,
    String.ofList_toList] at joined

end Steps

/-- A step that replaces a mark everywhere leaves a text without the mark as it is. In any other text it
keeps what stands before the first one, puts the new text in its place and goes on with what stands behind
it. -/
structure ReplacesEach (chance : Edit.Chance) (mark new : Name) (subject : Name) (replaced : String) :
    Prop where
  answered : chance.catalogue.answer .transformation "replace_all"
    [("search", mark.toValue), ("replacement", new.toValue)] subject.toValue = .ok (.text replaced)
  missing : ¬ mark.label.toList <:+: subject.label.toList → replaced = subject.label
  found : ∀ before after : String,
    FirstCut mark.label.toList subject.label.toList before.toList after.toList →
    ∃ rest, chance.catalogue.answer .transformation "replace_all"
        [("search", mark.toValue), ("replacement", new.toValue)] (.text after) = .ok (.text rest) ∧
      replaced = before ++ new.label ++ rest

section Replacing
variable {mark : Name}

theorem replacesEach_split (nonempty : mark.label ≠ "") (new subject : Name) :
    ReplacesEach chance mark new subject (String.ofList
      (new.label.toList.intercalate (split mark.label.toList subject.label.toList))) where
  answered := replace_each_answer nonempty new subject
  missing := by
    intro missing
    rw [split_missing missing, List.intercalate_singleton, String.ofList_toList]
  found := by
    intro before after first
    have marked := label_nonempty nonempty
    refine ⟨_, replace_each_answer nonempty new (.text after), ?_⟩
    rw [split_cut marked first, List.intercalate_cons_of_ne_nil (split_cuts marked _).nonempty,
      String.ofList_append, String.ofList_append, String.ofList_toList, String.ofList_toList]
    rfl

/-- A text falls into parts at a mark that is not empty. It is put together again from them with the mark
between them, none of them holds the mark, and the cuts are its occurrences from the left that do not
overlap. -/
theorem literal_splits_are_lossless (chance : Edit.Chance) (nonempty : mark.label ≠ "") (subject : Name) :
    ∃ (parts : List Value) (texts : List (List Char)),
      subject.toValue.splitBy mark.toValue = .ok parts ∧ parts.map Value.chars? = texts.map some ∧
      mark.label.toList.intercalate texts = subject.label.toList ∧
      (∀ text ∈ texts, ¬ mark.label.toList <:+: text) ∧
      CutsInto mark.label.toList subject.label.toList texts ∧
      TakesParts chance [("separator", mark.toValue)] subject parts ∧
      chance.catalogue.answer .transformation "join"
        [("joiner", mark.toValue), ("separator", mark.toValue)] subject.toValue =
          .ok (.text subject.label) ∧
      (∀ separator ∈ noSeparator,
        TakesParts chance separator subject (characters subject) ∧
        chance.catalogue.answer .transformation "join" (("joiner", .text "") :: separator)
          subject.toValue = .ok (.text subject.label)) ∧
      ∀ new : Name, ∃ replaced, ReplacesEach chance mark new subject replaced := by
  have marked := label_nonempty nonempty
  have fell := splitBy_mark nonempty subject
  have spelled := splitAtMark_spells subject mark.label.toList
  have cuts := split_cuts marked subject.label.toList
  refine ⟨_, _, fell, spelled, cuts.joined, cuts.free marked, cuts, takesParts_split fell, ?joined, ?bare,
    fun new => ⟨_, replacesEach_split nonempty new subject⟩⟩
  case joined =>
    have given : subject.toValue.splitBy
        (Settings.either [("separator", mark.toValue)] "separator" .nothing) = .ok _ := fell
    have joined := @join_split chance _ _ _ _ given spelled mark
    rwa [cuts.joined, Value.ofChars, String.ofList_toList] at joined
  case bare =>
    intro separator bare
    exact ⟨takesParts_split (noSeparator_splits bare subject), join_bare bare subject⟩

end Replacing

theorem overlapping_marks_cut :
    (Name.text "aa").label ≠ "" ∧
      Catalogue.builtIn.answer .transformation "take_that_at"
        [("index", .int 1), ("separator", .text "aa")] (.text "aaaba") = .ok (.text "aba") ∧
      told (Catalogue.builtIn.answer .transformation "take_that_at"
        [("index", .int 2), ("separator", .text "aa")] (.text "aaaba")) =
          .error (.kind .step, "Index out of range") ∧
      Catalogue.builtIn.answer .transformation "join"
        [("joiner", .text "aa"), ("separator", .text "aa")] (.text "aaaba") = .ok (.text "aaaba") := by
  have nonempty : (Name.text "aa").label ≠ "" := by decide
  obtain ⟨parts, _, fell, _, _, _, _, takes, joined, _⟩ :=
    literal_splits_are_lossless .standing nonempty (.text "aaaba")
  have direct : (Name.text "aaaba").toValue.splitBy (Name.text "aa").toValue =
      .ok [.text "", .text "aba"] := rfl
  obtain rfl : [.text "", .text "aba"] = parts := Except.ok.inj (direct.symm.trans fell)
  exact ⟨nonempty, takes.inside 1 _ rfl, takes.outside 2 (Or.inr (Int.le_refl 2)), joined⟩

end TextChain
