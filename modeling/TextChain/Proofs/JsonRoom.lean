import TextChain.Proofs.JsonValues

/-!
Room for reading JSON text. The readers of values, of items and of entries are given a number that each of
them hands on made smaller. Every reader that comes to something leaves less of the text, so twice the
length of a text is enough, and whoever is given more reads the same.
-/

namespace TextChain

/-! ## What is left -/

/-- A reader that comes to something leaves less of the text than there was. -/
def Shortens {α : Type} (length : Nat) (result : Except JsonTrouble (α × JsonRest)) : Prop :=
  Yields (fun found => found.2.ahead.length < length) result

theorem Shortens.weaken {α : Type} {less more : Nat} {result : Except JsonTrouble (α × JsonRest)}
    (shortens : Shortens less result) (order : less ≤ more) : Shortens more result :=
  fun found read => Nat.lt_of_lt_of_le (shortens found read) order

theorem skip_length_le (rest : JsonRest) (count : Nat) :
    (rest.skip count).ahead.length ≤ rest.ahead.length := by
  rw [JsonRest.skip, List.length_drop]
  exact Nat.sub_le _ _

theorem skipSpace_length (rest : JsonRest) : rest.skipSpace.ahead.length ≤ rest.ahead.length :=
  skip_length_le rest _

theorem skip_length {rest : JsonRest} {count : Nat} (some : 0 < count) (left : rest.ahead ≠ []) :
    (rest.skip count).ahead.length < rest.ahead.length := by
  have := List.length_pos_iff.mpr left
  rw [JsonRest.skip, List.length_drop]
  omega

theorem behind_mark {rest : JsonRest} {mark : Char} {more : List Char} (ahead : rest.ahead = mark :: more) :
    (rest.skip 1).ahead.length < rest.ahead.length :=
  skip_length Nat.one_pos (ahead ▸ List.cons_ne_nil mark more)

theorem behind_space {rest : JsonRest} {mark : Char} {more : List Char} (ahead : rest.ahead = mark :: more) :
    (rest.skip 1).skipSpace.ahead.length < rest.ahead.length :=
  Nat.lt_of_le_of_lt (skipSpace_length _) (behind_mark ahead)

theorem readStringFrom_shortens (start place skip : Nat) (taken text : List Char) :
    Shortens text.length (readStringFrom start place skip taken text) := by
  induction text generalizing place skip taken with
  | nil => exact .trouble _
  | cons c rest ih =>
      have later (place skip : Nat) (taken : List Char) :
          Shortens (c :: rest).length (readStringFrom start place skip taken rest) :=
        (ih place skip taken).weaken (Nat.le_succ _)
      unfold readStringFrom
      split
      · exact later _ _ _
      · split
        · exact .found (Nat.lt_succ_self _)
        · split
          · split
            · exact later _ _ _
            · exact .trouble _
          · split
            · exact .trouble _
            · exact later _ _ _

theorem readString_shortens (rest : JsonRest) : Shortens rest.ahead.length (readString rest) := by
  refine .bind (readStringFrom_shortens _ _ _ _ _) fun found less => .found ?_
  exact Nat.lt_of_lt_of_le less (List.length_drop ▸ Nat.sub_le _ _)

theorem keyword_shortens {rest : JsonRest} {word : List Char} {value : Value}
    (found : (keywords.find? fun entry => entry.1.isPrefixOf rest.ahead) = some (word, value)) :
    Shortens rest.ahead.length (.ok (value, rest.skip word.length)) := by
  have written : ∀ entry ∈ keywords, entry.1 ≠ [] := by simp [keywords]
  have some : word ≠ [] := written _ (List.mem_of_find?_eq_some found)
  have ahead : word <+: rest.ahead := by simpa using List.find?_some found
  refine .found (skip_length (List.length_pos_iff.mpr some) ?_)
  rintro nothing
  rw [nothing] at ahead
  exact some (List.prefix_nil.mp ahead)

theorem readNumber_shortens (rest : JsonRest) : Shortens rest.ahead.length (readNumber rest) := by
  by_cases left : rest.ahead = []
  · have nothing : readNumber rest = rest.fault .expectedValue := by
      unfold readNumber
      rw [left]
      rfl
    rw [nothing]
    exact .trouble _
  · unfold readNumber
    split
    dsimp only
    split
    all_goals
      split
      · exact .trouble _
      next digits =>
        have some := List.length_pos_iff.mpr (mt List.isEmpty_iff.mpr digits)
        split
        · split
          · exact .trouble _
          · exact .found (skip_length (by omega) left)
        · exact .found (skip_length (by omega) left)

theorem readers_shorten (room : Nat) :
    (∀ rest, Shortens rest.ahead.length (readValue room rest)) ∧
      (∀ taken rest, Shortens rest.ahead.length (readItemsFrom room taken rest)) ∧
      ∀ taken rest, Shortens rest.ahead.length (readEntriesFrom room taken rest) := by
  -- As for what they come to, the three readers need one induction.
  induction room with
  | zero => exact ⟨fun _ => .trouble _, fun _ _ => .trouble _, fun _ _ => .trouble _⟩
  | succ room ih =>
      obtain ⟨values, itemLists, entryLists⟩ := ih
      refine ⟨fun rest => ?value, fun taken rest => ?items, fun taken rest => ?entries⟩
      case value =>
        have closed {bracket : Char} {more : List Char} (ahead : rest.ahead = bracket :: more) :
            ((rest.skip 1).skipSpace.skip 1).ahead.length < rest.ahead.length :=
          Nat.lt_of_le_of_lt (skip_length_le _ 1) (behind_space ahead)
        unfold readValue
        split
        · exact .bind (readString_shortens rest) fun found less => .found less
        next more ahead =>
          dsimp only
          split
          · exact .found (closed ahead)
          · have inside := (itemLists [] _).weaken (Nat.le_of_lt (behind_space ahead))
            exact .bind inside fun found less => .found less
        next more ahead =>
          dsimp only
          split
          · exact .found (closed ahead)
          · have inside := (entryLists [] _).weaken (Nat.le_of_lt (behind_space ahead))
            exact .bind inside fun found less => .found less
        · split
          next word value found => exact keyword_shortens found
          next => exact readNumber_shortens rest
      case items =>
        unfold readItemsFrom
        refine .bind (values rest) fun item less => ?_
        have left := Nat.lt_of_le_of_lt (skipSpace_length item.2) less
        dsimp only
        split
        next ahead => exact .found (Nat.lt_trans (behind_mark ahead) left)
        next ahead => exact (itemLists _ _).weaken (Nat.le_of_lt (Nat.lt_trans (behind_space ahead) left))
        next => exact .trouble _
      case entries =>
        unfold readEntriesFrom
        split
        · exact .trouble _
        · refine .bind (readString_shortens rest) fun name less => ?_
          have named := Nat.lt_of_le_of_lt (skipSpace_length name.2) less
          dsimp only
          split
          · exact .trouble _
          · refine .bind (values _) fun value less => ?_
            have told := Nat.le_trans (skipSpace_length (name.2.skipSpace.skip 1)) (skip_length_le _ 1)
            have left := Nat.lt_of_le_of_lt (skipSpace_length value.2) less
            have behind := Nat.lt_of_lt_of_le left (Nat.le_trans told (Nat.le_of_lt named))
            split
            next ahead => exact .found (Nat.lt_trans (behind_mark ahead) behind)
            next ahead =>
              exact (entryLists _ _).weaken (Nat.le_of_lt (Nat.lt_trans (behind_space ahead) behind))
            next => exact .trouble _

/-! ## What is enough -/

theorem bind_read {α β : Type} {first other : Except JsonTrouble α}
    {next later : α → Except JsonTrouble β} (same : first = other) (goesOn : ∀ found, other = .ok found → next found = later found) :
    (first >>= next) = (other >>= later) := by
  subst same
  cases first with
  | error trouble => rfl
  | ok found => exact goesOn found rfl

/-- With more room than twice the length of what is left, a value is read alike with still more of it. Items
and entries take one more, for the value that comes first. -/
theorem readers_settle (room : Nat) :
    (∀ rest, 2 * rest.ahead.length < room → readValue (room + 1) rest = readValue room rest) ∧
      (∀ taken rest, 2 * rest.ahead.length + 1 < room →
        readItemsFrom (room + 1) taken rest = readItemsFrom room taken rest) ∧
      ∀ taken rest, 2 * rest.ahead.length + 1 < room →
        readEntriesFrom (room + 1) taken rest = readEntriesFrom room taken rest := by
  induction room with
  | zero => exact ⟨nofun, nofun, nofun⟩
  | succ room ih =>
      obtain ⟨values, itemLists, entryLists⟩ := ih
      obtain ⟨valueLess, _, _⟩ := readers_shorten room
      refine ⟨fun rest enough => ?value, fun taken rest enough => ?items,
        fun taken rest enough => ?entries⟩
      case value =>
        rw [readValue, readValue]
        split
        · rfl
        next more ahead =>
          have inside := behind_space ahead
          dsimp only
          split
          · rfl
          · rw [itemLists [] _ (by omega)]
        next more ahead =>
          have inside := behind_space ahead
          dsimp only
          split
          · rfl
          · rw [entryLists [] _ (by omega)]
        · rfl
      case items =>
        rw [readItemsFrom, readItemsFrom]
        refine bind_read (values rest (by omega)) fun item read => ?_
        have left := Nat.lt_of_le_of_lt (skipSpace_length item.2) (valueLess rest item read)
        dsimp only
        split
        · rfl
        next ahead =>
          have behind := behind_space ahead
          exact itemLists _ _ (by omega)
        · rfl
      case entries =>
        rw [readEntriesFrom, readEntriesFrom]
        split
        · rfl
        · refine bind_read rfl fun name read => ?_
          have named := Nat.lt_of_le_of_lt (skipSpace_length name.2) (readString_shortens rest name read)
          have told := Nat.le_trans (skipSpace_length (name.2.skipSpace.skip 1)) (skip_length_le _ 1)
          dsimp only
          split
          · rfl
          · refine bind_read (values _ (by omega)) fun value read => ?_
            have left := Nat.lt_of_le_of_lt (skipSpace_length value.2) (valueLess _ value read)
            split
            · rfl
            next ahead =>
              have behind := behind_space ahead
              exact entryLists _ _ (by omega)
            · rfl

/-- The room that a document is read with is enough: with any more of it, nothing else is read. -/
theorem document_room (source : List Char) {room : Nat} (enough : 2 * source.length + 2 ≤ room) :
    readValue room (JsonRest.skipSpace ⟨source, 0⟩) =
      readValue (2 * source.length + 2) (JsonRest.skipSpace ⟨source, 0⟩) := by
  obtain ⟨more, rfl⟩ := Nat.exists_eq_add_of_le enough
  induction more with
  | zero => rfl
  | succ more ih =>
      have short : (JsonRest.skipSpace ⟨source, 0⟩).ahead.length ≤ source.length := skipSpace_length _
      have enough : 2 * (JsonRest.skipSpace ⟨source, 0⟩).ahead.length < 2 * source.length + 2 + more := by
        omega
      rw [← ih (Nat.le_add_right _ more)]
      exact (readers_settle _).1 _ enough

end TextChain
