import TextChain.Proofs.Lookup

/-!
The values that JSON text can hold. Whatever is read from a text is one of them. Of those that count as
true, only truth values and numbers have no items; and each is equal to itself if its numbers are.
-/

namespace TextChain

/-- A value of JSON whose floating point numbers are of a sort. No dictionary has a name twice. -/
inductive Value.Written (sort : Float → Prop) : Value → Prop
  | nothing : Written sort .nothing
  | bool (b : Bool) : Written sort (.bool b)
  | int (n : Int) : Written sort (.int n)
  | float {x : Float} (sorted : sort x) : Written sort (.float x)
  | text (s : String) : Written sort (.text s)
  | list {items : List Value} (each : ∀ item ∈ items, Written sort item) : Written sort (.list items)
  | dict {entries : Settings} (distinct : (entries.map (·.1)).Nodup)
      (each : ∀ entry ∈ entries, Written sort entry.2) : Written sort (.dict entries)

abbrev Value.Json (value : Value) : Prop := value.Written fun _ => True

/-! ## Entries of dictionaries -/

section Entries
variable {entries : Settings} {name : String} {value : Value}

theorem has_name : entries.has name = true ↔ name ∈ entries.map (·.1) := by
  simp [Settings.has]

theorem put_names : (entries.put name value).map (·.1) =
    if entries.has name then entries.map (·.1) else entries.map (·.1) ++ [name] := by
  unfold Settings.put
  split
  · rw [List.map_map]
    apply List.map_congr_left
    intro entry _
    by_cases same : entry.1 == name
    · rw [Function.comp_apply, if_pos same]
      exact (eq_of_beq same).symm
    · rw [Function.comp_apply, if_neg same]
  · rw [List.map_append]
    rfl

theorem put_distinct (distinct : (entries.map (·.1)).Nodup) :
    ((entries.put name value).map (·.1)).Nodup := by
  rw [put_names]
  by_cases given : entries.has name = true
  · rw [if_pos given]
    exact distinct
  · rw [if_neg given, List.nodup_append]
    refine ⟨distinct, List.pairwise_singleton _ name, fun listed member other new same => ?_⟩
    rw [List.mem_singleton.mp new] at same
    exact given (has_name.mpr (same ▸ member))

theorem put_mem {entry : String × Value} (member : entry ∈ entries.put name value) :
    entry ∈ entries ∨ entry.2 = value := by
  unfold Settings.put at member
  split at member
  · obtain ⟨other, listed, rfl⟩ := List.mem_map.mp member
    by_cases same : other.1 == name
    · exact Or.inr (by rw [if_pos same])
    · exact Or.inl (by rwa [if_neg same])
  · rcases List.mem_append.mp member with before | new
    · exact Or.inl before
    · rw [List.mem_singleton] at new
      exact Or.inr (by rw [new])

end Entries

/-! ## Reading -/

def Yields {α : Type} (good : α → Prop) (result : Except JsonTrouble α) : Prop :=
  ∀ found, result = .ok found → good found

namespace Yields

variable {α β : Type} {good : α → Prop} {better : β → Prop}

theorem found {value : α} (fine : good value) : Yields good (.ok value) := by
  rintro _ ⟨⟩
  exact fine

theorem trouble (trouble : JsonTrouble) : Yields good (.error trouble) := nofun

theorem bind {result : Except JsonTrouble α} {next : α → Except JsonTrouble β}
    (first : Yields good result) (later : ∀ value, good value → Yields better (next value)) :
    Yields better (result >>= next) := by
  cases result with
  | error trouble => exact nofun
  | ok value => exact later value (first value rfl)

theorem any (result : Except JsonTrouble α) : Yields (fun _ => True) result := fun _ _ => trivial

end Yields

theorem keywords_json : ∀ entry ∈ keywords, entry.2.Json := by
  simp only [keywords, List.forall_mem_cons]
  exact ⟨.nothing, .bool _, .bool _, .float trivial, .float trivial, .float trivial, nofun⟩

theorem readNumber_json (rest : JsonRest) : Yields (·.1.Json) (readNumber rest) := by
  unfold readNumber
  split
  dsimp only
  split
  all_goals
    split
    · exact .trouble _
    · split
      · split
        · exact .trouble _
        · exact .found (.int _)
      · exact .found (.float trivial)

/-- The readers of values, of items and of entries go through values of JSON only. -/
theorem readers_json (fuel : Nat) :
    (∀ rest, Yields (·.1.Json) (readValue fuel rest)) ∧
      (∀ taken rest, (∀ item ∈ taken, item.Json) →
        Yields (fun found => ∀ item ∈ found.1, item.Json) (readItemsFrom fuel taken rest)) ∧
      ∀ taken rest, (Value.dict taken).Json →
        Yields (fun found => (Value.dict found.1).Json) (readEntriesFrom fuel taken rest) := by
  -- The three readers call each other with less fuel, so one induction serves them all.
  induction fuel with
  | zero => exact ⟨fun _ => .trouble _, fun _ _ _ => .trouble _, fun _ _ _ => .trouble _⟩
  | succ fuel ih =>
      obtain ⟨values, itemLists, entryLists⟩ := ih
      refine ⟨fun rest => ?value, fun taken rest before => ?items, fun taken rest before => ?entries⟩
      case value =>
        unfold readValue
        split
        · exact .bind (.any _) fun found _ => .found (.text _)
        · dsimp only
          split
          · exact .found (.list nofun)
          · exact .bind (itemLists [] _ nofun) fun found each => .found (.list each)
        · dsimp only
          split
          · exact .found (.dict List.nodup_nil nofun)
          · exact .bind (entryLists [] _ (.dict List.nodup_nil nofun)) fun found read => .found read
        · split
          next word value found =>
            exact .found (keywords_json _ (List.mem_of_find?_eq_some found))
          next => exact readNumber_json rest
      case items =>
        unfold readItemsFrom
        refine .bind (values rest) fun item read => ?_
        have longer : ∀ other ∈ item.1 :: taken, other.Json :=
          List.forall_mem_cons.mpr ⟨read, before⟩
        dsimp only
        split
        · exact .found fun other member => longer other (List.mem_reverse.mp member)
        · exact itemLists _ _ longer
        · exact .trouble _
      case entries =>
        unfold readEntriesFrom
        split
        · exact .trouble _
        · refine .bind (.any _) fun name _ => ?_
          dsimp only
          split
          · exact .trouble _
          · refine .bind (values _) fun value read => ?_
            -- A name that comes twice keeps its first place, so the names stay distinct.
            have longer : (Value.dict (Settings.put taken name.1 value.1)).Json := by
              cases before with
              | dict distinct each =>
                  refine .dict (put_distinct distinct) fun entry member => ?_
                  rcases put_mem member with old | new
                  · exact each entry old
                  · rw [new]
                    exact read
            split
            · exact .found longer
            · exact entryLists _ _ longer
            · exact .trouble _

/-- Whatever a text is read as is a value of JSON. -/
theorem ofJson_json {source : String} {value : Value} (read : Value.ofJson? source = .ok value) :
    value.Json := by
  have document : Yields Value.Json (readDocument source.toList) := by
    unfold readDocument
    split
    · exact .trouble _
    · refine .bind ((readers_json _).1 _) fun found json => ?_
      dsimp only
      split
      · exact .found json
      · exact .trouble _
  unfold Value.ofJson? at read
  split at read
  next value found =>
    cases read
    exact document value found
  next => cases read
  next => cases read

/-! ## Items -/

/-- Numbers and truth values. -/
def Value.isNumber : Value → Bool
  | .bool _ => true
  | .int _ => true
  | .float _ => true
  | _ => false

theorem json_items {sort : Float → Prop} {value : Value} {failure : Failure}
    (json : value.Written sort) (truthful : value.truthy = true) :
    value.items = .error failure ↔
      value.isNumber = true ∧ failure = .operand (.notIterable value.faultName) := by
  cases json with
  | nothing => cases truthful
  | bool b => simp [Value.items, Value.isNumber, refuse, eq_comm]
  | int n => simp [Value.items, Value.isNumber, refuse, eq_comm]
  | float sorted => simp [Value.items, Value.isNumber, refuse, eq_comm]
  | text s => simp [Value.items, Value.isNumber]
  | list each => simp [Value.items, Value.isNumber]
  | dict distinct each => simp [Value.items, Value.isNumber]

/-! ## Equality -/

theorem same_items {items : List Value} (each : ∀ item ∈ items, item.same item = true) :
    Value.sameItems items items = true := by
  induction items with
  | nil => rfl
  | cons item rest ih =>
      obtain ⟨first, others⟩ := List.forall_mem_cons.mp each
      simp only [Value.sameItems, first, ih others, Bool.and_self]

theorem same_entries {part entries : Settings}
    (each : ∀ entry ∈ part, entries.get? entry.1 = some entry.2 ∧ entry.2.same entry.2 = true) :
    Value.sameEntries part entries = true := by
  induction part with
  | nil => rfl
  | cons entry rest ih =>
      obtain ⟨⟨given, same⟩, others⟩ := List.forall_mem_cons.mp each
      simp only [Value.sameEntries, given, same, ih others, Bool.and_self]

theorem written_same {value : Value} (written : value.Written fun x => (x == x) = true) :
    value.same value = true := by
  induction written with
  | nothing => rfl
  | bool b => simp [Value.same, Value.int?]
  | int n => simp [Value.same, Value.int?]
  | float itself => exact itself
  | text s => simp [Value.same, Value.chars?]
  | list each ih =>
      rw [Value.same]
      exact same_items ih
  | dict distinct each ih =>
      rw [Value.same, beq_self_eq_true, Bool.true_and]
      refine same_entries fun entry member => ⟨?_, ih entry member⟩
      rw [Settings.get?, find?_distinct distinct member]
      rfl

end TextChain
