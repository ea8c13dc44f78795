import TextChain.Proofs.LiteralSplits

/-!
Texts in pieces. A text is cut into pieces of one size, of which the last may be shorter, and they are put
together with a separator. Nothing is lost: the pieces make up the text, and where the separator has no
character of the text, it can be taken out again, or the pieces be told apart by it. Lines of one width are
such pieces with line feeds between them.
-/

namespace TextChain

variable {chance : Edit.Chance}

/-! ## Pieces of one size -/

/-- The pieces of a text have all the same size, but for the last one, which may be shorter. An empty text
has none. -/
inductive EvenPieces {α : Type} (size : Nat) : List α → List (List α) → Prop
  | nothing : EvenPieces size [] []
  | cut {full : List (List α)} {last : List α} (even : ∀ piece ∈ full, piece.length = size)
      (some : 1 ≤ last.length) (fits : last.length ≤ size) :
      EvenPieces size (full ++ [last]).flatten (full ++ [last])

section Cutting
variable {α : Type} {size : Nat} {text : List α} {pieces : List (List α)}

theorem EvenPieces.whole (cut : EvenPieces size text pieces) : pieces.flatten = text := by
  cases cut <;> rfl

theorem EvenPieces.present (cut : EvenPieces size text pieces) (nonempty : text ≠ []) : pieces ≠ [] := by
  rintro rfl
  exact nonempty cut.whole.symm

/-- While a text is cut, the pieces that were finished are full, and the one that is being filled has room
for the rest of its size. -/
theorem chunksFrom_even {done : List (List α)} {room : Nat} {piece : List α}
    (even : ∀ piece ∈ done, piece.length = size) (some : 1 ≤ piece.length)
    (filling : piece.length + room = size) (text : List α) :
    EvenPieces size ((done.reverse ++ [piece.reverse]).flatten ++ text)
      (chunksFrom size done room piece text) := by
  induction text generalizing done room piece with
  | nil =>
      have begun : piece.isEmpty = false := by simpa using List.ne_nil_of_length_pos some
      rw [chunksFrom, begun, if_neg Bool.false_ne_true, List.reverse_cons, List.append_nil]
      exact .cut (by simpa using even) (by simpa using some) (by simp only [List.length_reverse]; omega)
  | cons c rest ih =>
      -- The piece is full and the next one begins, or it takes the character.
      cases room with
      | zero =>
          have same : ((piece.reverse :: done).reverse ++ [[c].reverse]).flatten ++ rest =
              (done.reverse ++ [piece.reverse]).flatten ++ c :: rest := by simp
          have full : ∀ other ∈ piece.reverse :: done, other.length = size :=
            List.forall_mem_cons.mpr ⟨by simpa using filling, even⟩
          rw [chunksFrom, ← same]
          exact ih full (Nat.le_refl 1) (show 1 + (size - 1) = size by omega)
      | succ room =>
          have same : (done.reverse ++ [(c :: piece).reverse]).flatten ++ rest =
              (done.reverse ++ [piece.reverse]).flatten ++ c :: rest := by simp
          have less : (c :: piece).length + room = size := by
            rw [List.length_cons]
            omega
          rw [chunksFrom, ← same]
          exact ih even (Nat.le_add_left 1 _) less

theorem chunks_even (positive : 0 < size) (text : List α) : EvenPieces size text (chunks size text) := by
  cases text with
  | nil => exact .nothing
  | cons c rest =>
      obtain ⟨room, rfl⟩ := Nat.exists_eq_succ_of_ne_zero (Nat.ne_of_gt positive)
      have some : 1 ≤ [c].length := Nat.le_refl 1
      exact chunksFrom_even (List.forall_mem_nil _) some (Nat.add_comm 1 room) rest

end Cutting

/-! ## Separators -/

section Separators
variable {α : Type} [BEq α] [LawfulBEq α] {mark : List α} {parts : List (List α)}

theorem split_joined (marked : mark ≠ []) (present : parts ≠ []) (apart : mark.Disjoint parts.flatten) :
    split mark (mark.intercalate parts) = parts := by
  obtain ⟨first, inside, rfl⟩ := List.exists_cons_of_ne_nil marked
  have free : ∀ part ∈ parts, first ∉ part := fun part listed within =>
    apart List.mem_cons_self (List.mem_flatten.mpr ⟨part, listed, within⟩)
  have cuts : CutsInto (first :: inside) _ parts := intercalated_cuts present free
  exact cuts.split_eq marked

theorem flatten_joined (marked : mark ≠ []) (apart : mark.Disjoint parts.flatten) :
    (split mark (mark.intercalate parts)).flatten = parts.flatten := by
  by_cases present : parts = []
  · subst present
    have missing : ¬ mark <:+: [] := fun occurs => marked (List.infix_nil.mp occurs)
    rw [List.intercalate_nil, split_missing missing]
    rfl
  · rw [split_joined marked present apart]

end Separators

/-! ## Steps -/

def pieceSettings (size : Nat) (separator : Name) : Settings :=
  [("size", .int size), ("separator", separator.toValue)]

def inPieces (size : Nat) (separator subject : Name) : String :=
  .ofList (separator.label.toList.intercalate (chunks size subject.label.toList))

section Steps
variable {size : Nat}

theorem piecesWith_texts (size : Nat) (glue subject : Name) :
    Edit.piecesWith (.int size) glue.toValue subject.toValue = .ok (.text (inPieces size glue subject)) := by
  have cut : subject.toValue.pieces size = .ok ((chunks size subject.label.toList).map .ofChars) := by
    cases subject <;> rfl
  have spelled : ((chunks size subject.label.toList).map Value.ofChars).map Value.chars? =
      (chunks size subject.label.toList).map some := by
    simp [Function.comp_def, ofChars_spells]
  simp only [Edit.piecesWith, Name.toValue_method, Name.toValue_length, ok_bind, Value.wholePlace, Value.int?,
    Int.toNat_natCast, cut, joinParts_texts spelled]
  rfl

theorem chunk_answer (positive : 0 < size) (separator subject : Name) :
    chance.catalogue.answer .transformation "chunk" (pieceSettings size separator) subject.toValue =
      .ok (.text (inPieces size separator subject)) := by
  have given : (pieceSettings size separator).need "size" = .ok (.int size) ∧
      (pieceSettings size separator).either "separator" (.text "|") = separator.toValue := ⟨rfl, rfl⟩
  have large : ¬ (size : Int) ≤ 0 := by omega
  refine answer_made Edit.chunked rfl rfl ?_
  simp only [Edit.chunked, Edit.chunk, given, ok_bind, atMost_whole, decide_eq_false large,
    Bool.false_eq_true, ↓reduceIte, piecesWith_texts]

theorem lines_answer (positive : 0 < size) (subject : Name) :
    chance.catalogue.answer .transformation "break_to_lines" [("characters_per_line", .int size)]
      subject.toValue = .ok (.text (inPieces size (.text "\n") subject)) := by
  have given : Settings.need [("characters_per_line", .int size)] "characters_per_line" =
      .ok (.int size) := rfl
  have large : ¬ (size : Int) ≤ 0 := by omega
  refine answer_made Edit.brokenToLines rfl rfl ?_
  rw [← piecesWith_texts]
  simp only [Edit.brokenToLines, Edit.lines, given, ok_bind, atMost_whole, decide_eq_false large,
    Bool.false_eq_true, ↓reduceIte]
  rfl

theorem pieces_removed (positive : 0 < size) {separator subject : Name} (marked : separator.label ≠ "")
    (apart : separator.label.toList.Disjoint subject.label.toList) :
    chance.catalogue.chained [("chunk", pieceSettings size separator),
      ("remove_all", [("pattern", separator.toValue)])] subject.toValue = .ok (.text subject.label) := by
  have begun : chance.Grants ("chunk", pieceSettings size separator) Edit.chunked :=
    ⟨rfl, rfl⟩
  have ended : chance.Grants ("remove_all", [("pattern", separator.toValue)]) Edit.removedAll :=
    ⟨rfl, rfl⟩
  have whole := (chunks_even positive subject.label.toList).whole
  rw [← whole] at apart
  rw [chained_pair begun ended subject (.text (inPieces size separator subject))
      (chunk_answer positive separator subject), remove_all_answer marked (searches_text separator),
    Name.label, inPieces, String.toList_ofList, flatten_joined (label_nonempty marked) apart, whole,
    Value.ofChars, String.ofList_toList]

theorem text_splitBy {mark : Name} (marked : mark.label ≠ "") (text : String) :
    (Value.text text).splitBy mark.toValue =
      .ok ((split mark.label.toList text.toList).map .ofChars) :=
  splitBy_mark marked (.text text)

theorem pieces_split (positive : 0 < size) {separator subject : Name} (marked : separator.label ≠ "")
    (apart : separator.label.toList.Disjoint subject.label.toList) (nonempty : subject.label ≠ "") :
    (Value.text (inPieces size separator subject)).splitBy separator.toValue =
      .ok ((chunks size subject.label.toList).map .ofChars) := by
  have cut := chunks_even positive subject.label.toList
  have present := cut.present (label_nonempty nonempty)
  have whole := cut.whole
  rw [← whole] at apart
  rw [text_splitBy marked, inPieces, String.toList_ofList,
    split_joined (label_nonempty marked) present apart]

/-- A text that is cut into pieces is put together from them with the separator, and nothing is lost. If the
separator is not empty and shares no character with the text, then it can be taken out again, and the parts
that a text in pieces falls into are the pieces. Lines of a width are pieces of this size with line feeds
between them. -/
theorem pieces_are_lossless (chance : Edit.Chance) (positive : 0 < size) (separator subject : Name) :
    ∃ (pieces : List (List Char)) (made : String),
      chance.catalogue.answer .transformation "chunk" (pieceSettings size separator) subject.toValue =
        .ok (.text made) ∧
      made.toList = separator.label.toList.intercalate pieces ∧
      EvenPieces size subject.label.toList pieces ∧
      (separator.label ≠ "" → separator.label.toList.Disjoint subject.label.toList →
        chance.catalogue.chained [("chunk", pieceSettings size separator),
          ("remove_all", [("pattern", separator.toValue)])] subject.toValue = .ok (.text subject.label) ∧
        (subject.label ≠ "" →
          (Value.text made).splitBy separator.toValue = .ok (pieces.map .ofChars) ∧
          TakesParts chance [("separator", separator.toValue)] (.text made) (pieces.map .ofChars))) ∧
      chance.catalogue.answer .transformation "break_to_lines" [("characters_per_line", .int size)]
          subject.toValue =
        chance.catalogue.answer .transformation "chunk" (pieceSettings size (.text "\n"))
          subject.toValue := by
  refine ⟨chunks size subject.label.toList, _, chunk_answer positive separator subject,
    String.toList_ofList, chunks_even positive _, ?apart, ?lines⟩
  case apart =>
    intro marked apart
    refine ⟨pieces_removed positive marked apart, fun nonempty => ?_⟩
    have fell := pieces_split positive marked apart nonempty
    have takes : TakesParts chance [("separator", separator.toValue)]
        (.text (inPieces size separator subject)) _ := takesParts_split fell
    exact ⟨fell, takes⟩
  case lines => rw [lines_answer positive, chunk_answer positive]

/-- Five characters fall into two pieces of two and one that is shorter. -/
theorem last_piece_shorter :
    0 < 2 ∧
      Catalogue.builtIn.answer .transformation "chunk" (pieceSettings 2 (.text "--")) (.text "abcde") =
        .ok (.text "ab--cd--e") ∧
      Catalogue.builtIn.chained [("chunk", pieceSettings 2 (.text "--")),
        ("remove_all", [("pattern", .text "--")])] (.text "abcde") = .ok (.text "abcde") ∧
      Catalogue.builtIn.answer .transformation "take_that_at" [("index", .int 2), ("separator", .text "--")]
        (.text "ab--cd--e") = .ok (.text "e") := by
  have positive : 0 < 2 := by decide
  obtain ⟨pieces, made, answered, _, _, back, _⟩ :=
    pieces_are_lossless .standing positive (.text "--") (.text "abcde")
  have apart : (Name.text "--").label.toList.Disjoint (Name.text "abcde").label.toList := by
    intro c marked listed
    have dashes : c ∈ ['-', '-'] := marked
    obtain rfl : c = '-' := by simpa using dashes
    exact absurd listed (by decide)
  obtain ⟨removed, parted⟩ := back (by decide) apart
  obtain ⟨fell, takes⟩ := parted (by decide)
  have computed := @chunk_answer .standing 2 positive (.text "--") (.text "abcde")
  obtain rfl : "ab--cd--e" = made := Value.text.inj (Except.ok.inj (computed.symm.trans answered))
  have direct : (Value.text "ab--cd--e").splitBy (Name.text "--").toValue =
      .ok [.text "ab", .text "cd", .text "e"] := rfl
  have listed : [.text "ab", .text "cd", .text "e"] = pieces.map Value.ofChars :=
    Except.ok.inj (direct.symm.trans fell)
  rw [← listed] at takes
  exact ⟨positive, answered, removed, takes.inside 2 _ rfl⟩

end Steps

end TextChain
