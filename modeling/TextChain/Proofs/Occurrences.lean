import Mathlib.Data.List.Basic
import TextChain.PatternSearch
import TextChain.Search

/-!
Occurrences of a needle in a text. The literal search cuts a text at the first place where the needle
stands, and finds such a place just if the needle is a part of the text. A search of another sort that
stops at a place just if the needle stands there finds the same first occurrence, and leaves the same parts
between all of them.
-/

namespace TextChain

/-! ## The first occurrence -/

/-- The text falls into what comes before and after the needle, and the needle stands nowhere earlier. -/
structure FirstCut {α : Type} (needle text before after : List α) : Prop where
  whole : text = before ++ needle ++ after
  first : ∀ earlier later, text = earlier ++ needle ++ later → before.length ≤ earlier.length

section Literal
variable {α : Type} [BEq α] [LawfulBEq α] {needle text before after : List α}

theorem dropHead?_eq_dropPrefix? (needle text : List α) :
    dropHead? needle text = text.dropPrefix? needle := by
  induction needle generalizing text with
  | nil => cases text <;> rfl
  | cons x needle ih =>
      cases text with
      | nil => rfl
      | cons y text => simp only [dropHead?, List.dropPrefix?, ih, @BEq.comm _ _ _ x]

theorem dropHead?_iff : dropHead? needle text = some after ↔ text = needle ++ after := by
  simp [dropHead?_eq_dropPrefix?, List.dropPrefix?_eq_some_iff]

theorem startsWith_iff : startsWith needle text = true ↔ needle <+: text := by
  rw [startsWith, Option.isSome_iff_exists]
  exact exists_congr fun after => dropHead?_iff.trans eq_comm

theorem cutFrom_eq_dropInfix? (needle passed text : List α) :
    cutFrom needle passed text = List.dropInfix?.go needle text passed := by
  induction text generalizing passed with
  | nil => rfl
  | cons c rest ih =>
      rw [cutFrom, List.dropInfix?.go, dropHead?_eq_dropPrefix?]
      cases (c :: rest).dropPrefix? needle with
      | none => exact ih (c :: passed)
      | some after => rfl

theorem cut?_iff : cut? needle text = some (before, after) ↔ FirstCut needle text before after := by
  rw [cut?, cutFrom_eq_dropInfix?]
  change List.dropInfix? text needle = _ ↔ _
  rw [List.dropInfix?_eq_some_iff]
  constructor
  · rintro ⟨⟨found, whole, same⟩, first⟩
    obtain rfl := eq_of_beq same
    exact ⟨whole, fun earlier later split => first earlier found later split same⟩
  · rintro ⟨whole, first⟩
    refine ⟨⟨needle, whole, beq_self_eq_true needle⟩, fun earlier found later split same => ?_⟩
    obtain rfl := eq_of_beq same
    exact first earlier later split

theorem cutFrom_isSome (needle passed text : List α) :
    (cutFrom needle passed text).isSome = true ↔ needle <:+: text := by
  induction text generalizing passed with
  | nil =>
      rw [cutFrom, List.infix_nil]
      cases needle <;> simp
  | cons c rest ih =>
      rw [cutFrom, List.infix_cons_iff, ← startsWith_iff, startsWith]
      cases dropHead? needle (c :: rest) with
      | none => simpa using ih (c :: passed)
      | some after => simp

theorem occursIn_iff : occursIn needle text = true ↔ needle <:+: text :=
  cutFrom_isSome needle [] text

theorem infix_iff_firstCut :
    needle <:+: text ↔ ∃ before after, FirstCut needle text before after := by
  constructor
  · intro occurs
    obtain ⟨⟨before, after⟩, found⟩ := Option.isSome_iff_exists.mp (occursIn_iff.mpr occurs)
    exact ⟨before, after, cut?_iff.mp found⟩
  · rintro ⟨before, after, cut⟩
    exact ⟨before, after, cut.whole.symm⟩

theorem FirstCut.unique {front back : List α} (cut : FirstCut needle text before after)
    (other : FirstCut needle text front back) : before = front ∧ after = back := by
  have same := (cut?_iff.mpr cut).symm.trans (cut?_iff.mpr other)
  exact Prod.mk.inj (Option.some.inj same)

theorem splitFrom_missing (missing : ¬ needle <:+: text) (parts : List (List α)) (part : List α) :
    splitFrom needle parts 0 part text = parts.reverse ++ [part.reverse ++ text] := by
  induction text generalizing part with
  | nil => simp [splitFrom]
  | cons c rest ih =>
      rw [List.infix_cons_iff, not_or, ← startsWith_iff] at missing
      rw [splitFrom, if_neg missing.1, ih missing.2]
      simp

theorem split_missing (missing : ¬ needle <:+: text) : split needle text = [text] := by
  have marked : needle.isEmpty = false := by
    cases needle with
    | nil => exact absurd List.nil_infix missing
    | cons x needle => rfl
  rw [split, marked]
  exact splitFrom_missing missing [] []

theorem between?_iff {opening closing text part : List α} :
    between? opening closing text = some part ↔
      ∃ before inside after, FirstCut opening text before inside ∧ FirstCut closing inside part after := by
  simp only [between?, Option.bind_eq_some_iff, Option.map_eq_some_iff, Prod.exists, cut?_iff]
  constructor
  · rintro ⟨before, inside, opened, _, after, closed, rfl⟩
    exact ⟨before, inside, after, opened, closed⟩
  · rintro ⟨before, inside, after, opened, closed⟩
    exact ⟨before, inside, opened, part, after, closed, rfl⟩

end Literal

/-! ## Searches for a needle -/

def Cursor.past (cursor : Cursor) (text after : List Char) : Cursor :=
  { cursor with before := text.reverse ++ cursor.before, after, place := cursor.place + text.length }

/-- A search that stops just where the needle stands, right behind it. -/
def Search.Seeks (search : Search) (needle : List Char) : Prop :=
  ∀ start : Cursor, search.any start = (dropHead? needle start.after).map (start.past needle)

section Seeking
variable {search : Search} {needle : List Char}

theorem past_hit {start : Cursor} {after : List Char}
    (stands : dropHead? needle start.after = some after) :
    start.hit (start.past needle after) = ⟨needle, start.extents⟩ := by
  simp [Cursor.hit, Cursor.past, dropHead?_iff.mp stands]

theorem seeks_findFrom (seeks : search.Seeks needle) (before : List Char) (place : Nat)
    (text : List Char) :
    search.findFrom before place text =
      (cutFrom needle before text).map fun parts => (parts.1, ⟨needle, []⟩, parts.2) := by
  induction text generalizing before place with
  | nil =>
      rw [Search.findFrom, cutFrom, seeks]
      cases needle with
      | nil => simp [dropHead?, Cursor.hit, Cursor.past]
      | cons x needle => rfl
  | cons c rest ih =>
      rw [Search.findFrom, cutFrom, seeks]
      cases stands : dropHead? needle (c :: rest) with
      | none => exact ih (c :: before) (place + 1)
      | some after =>
          have stands : dropHead? needle (Cursor.after { before, after := c :: rest, place }) =
              some after := stands
          simp only [Option.map_some, past_hit stands]
          rfl

theorem seeks_find? (seeks : search.Seeks needle) (text : List Char) :
    search.find? text = (cut? needle text).map fun parts => (parts.1, ⟨needle, []⟩, parts.2) :=
  seeks_findFrom seeks [] 0 text

section Walk
variable {cuts : List Search.Cut} {gap before : List Char} {place : Nat} {c : Char} {rest : List Char}

theorem cutsFrom_missed (missed : search.any { before, after := c :: rest, place } = none) :
    search.cutsFrom cuts gap 0 before place (c :: rest) =
      search.cutsFrom cuts (c :: gap) 0 (c :: before) (place + 1) rest := by
  rw [Search.cutsFrom, missed]

theorem cutsFrom_hit {stop : Cursor}
    (found : search.any { before, after := c :: rest, place } = some stop) (moved : stop.place ≠ place) :
    search.cutsFrom cuts gap 0 before place (c :: rest) =
      search.cutsFrom (⟨gap.reverse, Cursor.hit { before, after := c :: rest, place } stop⟩ :: cuts) []
        (stop.place - place - 1) (c :: before) (place + 1) rest := by
  rw [Search.cutsFrom, found]
  exact if_pos (bne_iff_ne.mpr moved)

end Walk

/-- Both walks pass over a needle that was found, and gather the same parts on the way. -/
theorem seeks_cutsFrom (seeks : search.Seeks needle) (nonempty : needle ≠ []) (cuts : List Search.Cut)
    (gap : List Char) (skip : Nat) (passed : skip ≠ 0 → gap = []) (before : List Char) (place : Nat)
    (text : List Char) :
    (search.cutsFrom cuts gap skip before place text).1.map (·.gap) ++
        [(search.cutsFrom cuts gap skip before place text).2] =
      splitFrom needle (cuts.map (·.gap)) skip gap text := by
  induction text generalizing cuts gap skip before place with
  | nil =>
      have nowhere : dropHead? needle [] = none := by
        cases needle with
        | nil => contradiction
        | cons x needle => rfl
      simp only [Search.cutsFrom, seeks _, nowhere, Option.map_none, splitFrom, List.map_reverse,
        List.reverse_cons]
  | cons c rest ih =>
      cases skip with
      | succ n =>
          -- Within a needle that was found both walks only count down.
          obtain rfl := passed (Nat.succ_ne_zero n)
          exact ih cuts [] n (fun _ => rfl) (c :: before) (place + 1)
      | zero =>
          have found := seeks { before, after := c :: rest, place }
          rw [splitFrom, startsWith]
          cases stands : dropHead? needle (c :: rest) with
          | none =>
              rw [cutsFrom_missed (found.trans (congrArg _ stands))]
              exact ih cuts (c :: gap) 0 (absurd rfl) (c :: before) (place + 1)
          | some after =>
              -- The needle is not empty, so the hit gets on, and its end says how much is passed over.
              have moved : place + needle.length ≠ place := by
                have := List.length_pos_iff.mpr nonempty
                omega
              have width : place + needle.length - place - 1 = needle.length - 1 := by omega
              rw [cutsFrom_hit (found.trans (congrArg _ stands)) moved, Cursor.past, width]
              exact ih _ [] (needle.length - 1) (fun _ => rfl) (c :: before) (place + 1)

theorem seeks_cuts (seeks : search.Seeks needle) (nonempty : needle ≠ []) (text : List Char) :
    (search.cuts text).1.map (·.gap) ++ [(search.cuts text).2] = split needle text := by
  have marked : needle.isEmpty = false := by simpa using nonempty
  rw [split, marked]
  exact seeks_cutsFrom seeks nonempty [] [] 0 (absurd rfl) [] 0 text

end Seeking

end TextChain
