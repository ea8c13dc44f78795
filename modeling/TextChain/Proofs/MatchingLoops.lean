import TextChain.PatternMatch
import TextChain.Proofs.Occurrences

/-!
Matching by trying and going back. What a way to run takes is given by a language: the texts that may be
taken, each in front of a rest. Rounds of a loop and stretches of single characters are tried one after the
other, and where what follows fails they go back; they succeed just if their language has a text behind which
what follows succeeds. Neither the room that bounds the rounds nor what is known of the next character makes
them miss one.
-/

namespace TextChain

/-! ## Languages -/

abbrev Language := List Char → List Char → Prop

def OneOf (kind : CharClass) : Language := fun text _ => ∃ c, text = [c] ∧ kind.accepts c = true

def Stretched (kind : CharClass) (width : Nat) : Language := fun text _ =>
  text.length = width ∧ ∀ c ∈ text, kind.accepts c = true

/-- That many texts of a language, one after the other. -/
inductive Repeated (language : Language) : Nat → Language
  | none {rest : List Char} : Repeated language 0 [] rest
  | more {count : Nat} {front back rest : List Char} (first : language front (back ++ rest))
      (later : Repeated language count back rest) : Repeated language (count + 1) (front ++ back) rest

def Within (count : Nat) (most : Option Nat) : Prop := ∀ bound ∈ most, count ≤ bound

theorem Within.unbounded (count : Nat) : Within count none := by
  intro bound given
  cases given

def Looped (language : Language) (least : Nat) (most : Option Nat) : Language := fun text rest =>
  ∃ count, least ≤ count ∧ Within count most ∧ Repeated language count text rest

/-! ## Ways through -/

abbrev Goal := Nat → List Char → Prop

def Through (language : Language) (goal : Goal) : Goal := fun place after =>
  ∃ text rest, after = text ++ rest ∧ language text rest ∧ goal (place + text.length) rest

def Settles (next : Next) (goal : Goal) : Prop :=
  ∀ (cursor : Cursor) (fallback : Fallback), (next cursor fallback).answer.isSome = true ↔
    goal cursor.place cursor.after ∨ (fallback ()).answer.isSome = true

def Tries (run : Run) (language : Language) : Prop :=
  ∀ (next : Next) (goal : Goal), Settles next goal → Settles (run next) (Through language goal)

section Ways
variable {run : Run} {next : Next} {goal : Goal} {language : Language}

theorem through_zero : Through (Repeated language 0) goal = goal := by
  funext place after
  apply propext
  constructor
  · rintro ⟨text, rest, rfl, taken, met⟩
    cases taken
    exact met
  · intro met
    exact ⟨[], after, rfl, .none, met⟩

theorem through_succ (count : Nat) :
    Through (Repeated language (count + 1)) goal =
      Through language (Through (Repeated language count) goal) := by
  funext place after
  apply propext
  constructor
  · rintro ⟨text, rest, rfl, taken, met⟩
    cases taken with
    | @more _ front back _ first later =>
        refine ⟨front, back ++ rest, List.append_assoc _ _ _, first, back, rest, rfl, later, ?_⟩
        rwa [Nat.add_assoc, ← List.length_append]
  · rintro ⟨front, _, rfl, first, back, rest, rfl, later, met⟩
    refine ⟨front ++ back, rest, (List.append_assoc _ _ _).symm, .more first later, ?_⟩
    rwa [List.length_append, ← Nat.add_assoc]

/-! ### Rounds -/

theorem rounds_tries (tries : Tries run language) (count : Nat) :
    Tries (rounds run count) (Repeated language count) := by
  intro next goal settles
  induction count with
  | zero =>
      rw [through_zero]
      exact settles
  | succ count ih =>
      rw [through_succ]
      -- The round hands on to the rounds that are left, one step later.
      exact tries _ _ fun stop fallback => ih stop fallback

theorem isOver_iff {tally : Tally} {cursor : Cursor} :
    tally.isOver cursor = false ↔ tally.most ≠ some 0 ∧ tally.last ≠ some cursor.place := by
  rcases tally with ⟨_ | _ | bound, _ | last⟩ <;> simp [Tally.isOver]

/-- What optional rounds come to: the goal is met here, or behind one more round. -/
def Optionally (language : Language) (goal : Goal) : List Char → Tally → Goal
  | [], _, place, after => goal place after
  | _ :: room, tally, place, after =>
      goal place after ∨ (tally.isOver { after, place } = false ∧
        Through language (Optionally language goal room (tally.after place)) place after)

theorem manyRounds_settles (tries : Tries run language) (settles : Settles next goal)
    (room : List Char) (tally : Tally) :
    Settles (manyRounds run room tally next) (Optionally language goal room tally) := by
  induction room generalizing tally with
  | nil => exact settles
  | cons c room ih =>
      intro cursor fallback
      have place : tally.isOver { after := cursor.after, place := cursor.place } =
          tally.isOver cursor := rfl
      rw [manyRounds, Optionally, place]
      cases ended : tally.isOver cursor with
      | true => simpa using settles cursor fallback
      | false =>
          have later : Settles
              (fun stop fallback => .further fun _ =>
                manyRounds run room (tally.after cursor.place) next stop fallback)
              (Optionally language goal room (tally.after cursor.place)) :=
            fun stop fallback => ih (tally.after cursor.place) stop fallback
          have round := tries _ _ later cursor fun _ => next cursor fallback
          simp only [Bool.false_eq_true, ↓reduceIte, true_and]
          rw [round, settles cursor fallback, or_left_comm, or_assoc]

theorem optionally_repeats {room : List Char} {tally : Tally} {place : Nat} {after : List Char}
    (met : Optionally language goal room tally place after) :
    ∃ count, Within count tally.most ∧ Through (Repeated language count) goal place after := by
  induction room generalizing tally place after with
  | nil => exact ⟨0, fun _ _ => Nat.zero_le _, through_zero ▸ met⟩
  | cons c room ih =>
      rcases met with here | ⟨going, front, rest, rfl, first, later⟩
      · exact ⟨0, fun _ _ => Nat.zero_le _, through_zero ▸ here⟩
      · obtain ⟨count, within, through⟩ := ih later
        refine ⟨count + 1, ?_, ?_⟩
        · intro bound given
          have less := within (bound - 1) (by simp [Tally.after, Option.mem_def.mp given])
          have some : bound ≠ 0 := by
            rintro rfl
            exact (isOver_iff.mp going).1 given
          omega
        · rw [through_succ]
          exact ⟨front, rest, rfl, first, through⟩

/-- Rounds that take nothing are left out, so the room is used up no faster than what comes after. -/
theorem repeats_optionally {count : Nat} {text rest room : List Char} {tally : Tally} {place : Nat}
    (repeats : Repeated language count text rest) (within : Within count tally.most)
    (fresh : tally.last ≠ some place) (enough : text.length + rest.length < room.length)
    (met : goal (place + text.length) rest) :
    Optionally language goal room tally place (text ++ rest) := by
  induction repeats generalizing room tally place with
  | none =>
      cases room with
      | nil => exact met
      | cons c room => exact Or.inl met
  | @more count front back rest first later ih =>
      -- A round that takes nothing would end the loop, so it is left out.
      by_cases idle : front = []
      · subst idle
        exact ih (fun bound given => Nat.le_of_succ_le (within bound given)) fresh enough met
      · have taken := List.length_pos_iff.mpr idle
        rw [List.length_append] at enough met
        cases room with
        | nil => exact absurd enough (Nat.not_lt_zero _)
        | cons c room =>
            -- The round takes something, so the tally allows for it and one place of the room goes with it.
            have bounded : tally.most ≠ some 0 := fun none => Nat.not_succ_le_zero _ (within 0 none)
            have fewer : Within count (tally.after place).most := by
              intro bound given
              obtain ⟨most, below, rfl⟩ := Option.map_eq_some_iff.mp given
              exact Nat.le_sub_one_of_lt (within most below)
            have moved : (tally.after place).last ≠ some (place + front.length) := by
              simp [Tally.after, idle]
            have less : back.length + rest.length < room.length := by
              rw [List.length_cons] at enough
              omega
            have ahead : Optionally language goal room (tally.after place) (place + front.length)
                (back ++ rest) := ih fewer moved less (by rwa [Nat.add_assoc])
            exact Or.inr ⟨isOver_iff.mpr ⟨bounded, fresh⟩, front, back ++ rest,
              List.append_assoc _ _ _, first, ahead⟩

theorem through_add (first second : Nat) :
    Through (Repeated language (first + second)) goal =
      Through (Repeated language first) (Through (Repeated language second) goal) := by
  induction first with
  | zero => rw [Nat.zero_add, through_zero]
  | succ first ih => rw [Nat.succ_add, through_succ, through_succ, ih]

theorem through_looped {least : Nat} {most : Option Nat} {place : Nat} {after : List Char} :
    Through (Looped language least most) goal place after ↔
      ∃ count, least ≤ count ∧ Within count most ∧ Through (Repeated language count) goal place after := by
  constructor
  · rintro ⟨text, rest, whole, ⟨count, enough, within, taken⟩, met⟩
    exact ⟨count, enough, within, text, rest, whole, taken, met⟩
  · rintro ⟨count, enough, within, text, rest, whole, taken, met⟩
    exact ⟨text, rest, whole, ⟨count, enough, within, taken⟩, met⟩

theorem loopRounds_tries (tries : Tries run language) {least : Nat} {most : Option Nat}
    (ordered : ∀ bound ∈ most, least ≤ bound) :
    Tries (loopRounds run .greedy least most) (Looped language least most) := by
  intro next goal settles cursor fallback
  let tally : Tally := { most := most.map (· - least) }
  let optional : Goal := fun place after => Optionally language goal (' ' :: after) tally place after
  have further : Settles (fun stop fallback => manyRounds run (roomAt stop) tally next stop fallback)
      optional := fun stop fallback => manyRounds_settles tries settles (roomAt stop) tally stop fallback
  -- The rounds that have to be made come first, and the optional ones are what follows them.
  have owed := rounds_tries tries least _ _ further cursor fallback
  have whole : Through (Repeated language least) optional cursor.place cursor.after ↔
      Through (Looped language least most) goal cursor.place cursor.after := by
    rw [through_looped]
    constructor
    · rintro ⟨front, after, split, first, met⟩
      obtain ⟨count, within, through⟩ := optionally_repeats met
      refine ⟨least + count, Nat.le_add_right _ _, ?_, ?_⟩
      · intro bound given
        have := ordered bound given
        have := within (bound - least) (by simp [tally, Option.mem_def.mp given])
        omega
      · rw [through_add]
        exact ⟨front, after, split, first, through⟩
    · rintro ⟨count, enough, within, through⟩
      obtain ⟨extra, rfl⟩ := Nat.exists_eq_add_of_le enough
      rw [through_add] at through
      obtain ⟨front, _, split, first, back, rest, rfl, second, met⟩ := through
      -- The room is one more than all the characters that are left.
      refine ⟨front, back ++ rest, split, first, repeats_optionally second ?_ nofun ?_ met⟩
      · intro bound given
        obtain ⟨most, below, rfl⟩ := Option.map_eq_some_iff.mp given
        have := within most below
        omega
      · rw [List.length_cons, List.length_append]
        exact Nat.lt_succ_self _
  rw [← whole]
  exact owed

/-! ### Stretches -/

def OpensWith (lead : Option CharClass) (rest : List Char) : Prop :=
  ∀ kind ∈ lead, ∃ c more, rest = c :: more ∧ kind.accepts c = true

theorem OpensWith.unknown (rest : List Char) : OpensWith none rest := by
  intro kind given
  cases given

theorem meets_opening {lead : Option CharClass} {cursor : Cursor} (opens : OpensWith lead cursor.after) :
    cursor.meets lead = true := by
  cases lead with
  | none => rfl
  | some kind =>
      obtain ⟨c, more, begins, accepted⟩ := opens kind rfl
      rw [Cursor.meets, begins]
      exact accepted

theorem led_answer {lead : Option CharClass} (settles : Settles next goal)
    (led : ∀ place rest, goal place rest → OpensWith lead rest) (cursor : Cursor) (fallback : Fallback) :
    (if cursor.meets lead then next cursor fallback else .further fallback).answer.isSome = true ↔
      goal cursor.place cursor.after ∨ (fallback ()).answer.isSome = true := by
  cases met : cursor.meets lead with
  | true => exact settles cursor fallback
  | false =>
      have unmet : ¬ goal cursor.place cursor.after := fun here => by
        rw [meets_opening (led _ _ here)] at met
        cases met
      simp [unmet, Attempt.answer]

theorem past_backOne (start : Cursor) (taken rest : List Char) (c : Char) :
    (start.past (taken ++ [c]) rest).backOne = start.past taken (c :: rest) := by
  simp [Cursor.past, Cursor.backOne, ← Nat.add_assoc]

/-- Splitting a text that ends with a character either leaves nothing behind or splits what is before it. -/
theorem split_ending {init : List Char} {c : Char} {count : Nat} {met : List Char → List Char → Prop} :
    (∃ front back, init ++ [c] = front ++ back ∧ back.length ≤ count + 1 ∧ met front back) ↔
      met (init ++ [c]) [] ∨
        ∃ front back, init = front ++ back ∧ back.length ≤ count ∧ met front (back ++ [c]) := by
  constructor
  · rintro ⟨front, back, split, short, whole⟩
    rcases List.eq_nil_or_concat back with rfl | ⟨back, d, rfl⟩
    · rw [List.append_nil] at split
      exact Or.inl (split ▸ whole)
    · rw [List.concat_eq_append] at split short whole
      rw [← List.append_assoc] at split
      obtain ⟨rfl, last⟩ := List.append_inj' split rfl
      obtain rfl := (List.cons.inj last).1
      rw [List.length_append] at short
      exact Or.inr ⟨front, back, rfl, Nat.le_of_succ_le_succ short, whole⟩
  · rintro (whole | ⟨front, back, rfl, short, met⟩)
    · exact ⟨init ++ [c], [], (List.append_nil _).symm, Nat.zero_le _, whole⟩
    · refine ⟨front, back ++ [c], List.append_assoc _ _ _, ?_, met⟩
      rw [List.length_append]
      exact Nat.succ_le_succ short

/-- Giving characters back one by one comes to every place from the farthest one down. -/
theorem giveBack_answer {lead : Option CharClass} (settles : Settles next goal)
    (led : ∀ place rest, goal place rest → OpensWith lead rest) (start : Cursor) {count : Nat}
    {taken rest : List Char} (enough : count ≤ taken.length) (fallback : Fallback) :
    (giveBack lead next count (start.past taken rest) fallback).answer.isSome = true ↔
      (∃ front back, taken = front ++ back ∧ back.length ≤ count ∧
        goal (start.place + front.length) (back ++ rest)) ∨ (fallback ()).answer.isSome = true := by
  induction count generalizing taken rest with
  | zero =>
      rw [giveBack, led_answer settles led]
      apply or_congr_left
      constructor
      · intro met
        exact ⟨taken, [], (List.append_nil _).symm, Nat.le_refl 0, met⟩
      · rintro ⟨front, back, rfl, short, met⟩
        obtain rfl := List.length_eq_zero_iff.mp (Nat.le_zero.mp short)
        rwa [List.append_nil]
  | succ count ih =>
      obtain ⟨init, c, rfl⟩ : ∃ init c, taken = init ++ [c] := by
        rcases List.eq_nil_or_concat taken with rfl | ⟨init, c, rfl⟩
        · exact absurd enough (Nat.not_succ_le_zero _)
        · exact ⟨init, c, List.concat_eq_append⟩
      rw [List.length_append] at enough
      -- Either the rest matches here, or the last character that was taken is given back.
      have earlier := @ih init (c :: rest) (Nat.le_of_succ_le_succ enough)
      have here := led_answer settles led (start.past (init ++ [c]) rest) fun _ =>
        giveBack lead next count (start.past init (c :: rest)) fallback
      have step : (giveBack lead next (count + 1) (start.past (init ++ [c]) rest) fallback).answer =
          (if (start.past (init ++ [c]) rest).meets lead then
            next (start.past (init ++ [c]) rest) fun _ =>
              giveBack lead next count (start.past init (c :: rest)) fallback
            else .further fun _ =>
              giveBack lead next count (start.past init (c :: rest)) fallback).answer := by
        rw [giveBack, past_backOne]
        split <;> rfl
      rw [step, here, earlier, ← or_assoc, split_ending]
      simp only [Cursor.past, List.append_assoc, List.singleton_append, List.nil_append]

theorem isBelow_iff {count : Nat} {most : Option Nat} :
    isBelow count most = true ↔ Within (count + 1) most := by
  cases most with
  | none => simp [isBelow, Within]
  | some bound =>
      have within : Within (count + 1) (some bound) ↔ count + 1 ≤ bound := by simp [Within]
      rw [within, isBelow, decide_eq_true_eq, Nat.succ_le_iff]

/-- The longest run of characters of a class that a text begins with, as far as the bound allows. `count`
characters have been taken before. -/
structure Farthest (kind : CharClass) (most : Option Nat) (count : Nat) (text taken rest : List Char) :
    Prop where
  whole : text = taken ++ rest
  inside : ∀ c ∈ taken, kind.accepts c = true
  within : Within count most → Within (count + taken.length) most
  longest : ∀ front back, text = front ++ back → (∀ c ∈ front, kind.accepts c = true) →
    Within (count + front.length) most → front.length ≤ taken.length

theorem strideFrom_farthest (kind : CharClass) (most : Option Nat) (start : Cursor)
    (passed text : List Char) :
    ∃ taken rest, Farthest kind most passed.length text taken rest ∧
      strideFrom kind start most passed.length (passed.reverse ++ start.before) text =
        ⟨(passed ++ taken).length, start.past (passed ++ taken) rest⟩ := by
  induction text generalizing passed with
  | nil =>
      refine ⟨[], [], ⟨rfl, nofun, id, ?_⟩, ?_⟩
      · rintro front back split inside within
        obtain rfl := (List.append_eq_nil_iff.mp split.symm).1
        exact Nat.le_refl 0
      · simp [strideFrom, Cursor.past]
  | cons c rest ih =>
      -- The stride goes on, or it ends here and no longer run could have been taken.
      by_cases goes : isBelow passed.length most = true ∧ kind.accepts c = true
      · obtain ⟨taken, behind, farthest, reached⟩ := ih (passed ++ [c])
        have length : (passed ++ [c]).length = passed.length + 1 := List.length_append
        rw [length] at farthest reached
        refine ⟨c :: taken, behind, ⟨?_, ?_, ?_, ?_⟩, ?_⟩
        · rw [farthest.whole, List.cons_append]
        · exact List.forall_mem_cons.mpr ⟨goes.2, farthest.inside⟩
        · intro _
          have := farthest.within (isBelow_iff.mp goes.1)
          rwa [List.length_cons, Nat.add_comm taken.length, ← Nat.add_assoc]
        · rintro (_ | ⟨d, front⟩) back split inside within
          · exact Nat.zero_le _
          · rw [List.length_cons, Nat.add_comm front.length, ← Nat.add_assoc] at within
            exact Nat.succ_le_succ (farthest.longest front back (List.cons.inj split).2
              (List.forall_mem_cons.mp inside).2 within)
        · rw [strideFrom, if_pos (Bool.and_eq_true _ _ ▸ goes)]
          simpa using reached
      · refine ⟨[], c :: rest, ⟨rfl, nofun, id, ?_⟩, ?_⟩
        · rintro (_ | ⟨d, front⟩) back split inside within
          · exact Nat.le_refl 0
          · obtain ⟨rfl, split⟩ := List.cons.inj split
            refine absurd ⟨isBelow_iff.mpr ?_, inside c List.mem_cons_self⟩ goes
            intro bound given
            have := within bound given
            rw [List.length_cons] at this
            omega
        · rw [strideFrom, if_neg (by simpa using goes)]
          simp [Cursor.past]

theorem stride_farthest (kind : CharClass) (most : Option Nat) (start : Cursor) :
    ∃ taken rest, Farthest kind most 0 start.after taken rest ∧
      stride kind most start = ⟨taken.length, start.past taken rest⟩ :=
  strideFrom_farthest kind most start [] start.after

theorem stretched_one {kind : CharClass} {text rest : List Char} :
    Stretched kind 1 text rest ↔ OneOf kind text rest := by
  constructor
  · rintro ⟨single, inside⟩
    obtain ⟨c, rfl⟩ := List.length_eq_one_iff.mp single
    exact ⟨c, rfl, inside c List.mem_cons_self⟩
  · rintro ⟨c, rfl, accepted⟩
    exact ⟨rfl, by simpa using accepted⟩

/-- Rounds that each take the same number of characters of a class. -/
theorem repeated_stretched {kind : CharClass} {width count : Nat} {text rest : List Char} :
    Repeated (Stretched kind width) count text rest ↔ Stretched kind (count * width) text rest := by
  induction count generalizing text with
  | zero =>
      rw [Nat.zero_mul]
      constructor
      · rintro ⟨⟩
        exact ⟨rfl, nofun⟩
      · rintro ⟨short, _⟩
        obtain rfl := List.length_eq_zero_iff.mp short
        exact .none
  | succ count ih =>
      rw [Nat.succ_mul]
      constructor
      · intro repeated
        cases repeated with
        | more first later =>
            obtain ⟨length, inside⟩ := ih.mp later
            constructor
            · rw [List.length_append, first.1, length, Nat.add_comm]
            · exact List.forall_mem_append.mpr ⟨first.2, inside⟩
      · rintro ⟨length, inside⟩
        rw [← List.take_append_drop width text] at inside ⊢
        obtain ⟨early, late⟩ := List.forall_mem_append.mp inside
        refine .more ⟨?_, early⟩ (ih.mpr ⟨?_, late⟩)
        · rw [List.length_take, length]
          omega
        · rw [List.length_drop, length]
          omega

theorem repeated_congr {language other : Language} (same : ∀ text rest, language text rest ↔ other text rest)
    (count : Nat) (text rest : List Char) :
    Repeated language count text rest ↔ Repeated other count text rest := by
  have equal : language = other := by
    funext text rest
    exact propext (same text rest)
  rw [equal]

/-- Texts of a language that says of each text what it is made from. -/
theorem repeated_parts {α : Type} {kind : α → Prop} {spell : α → List Char}
    (same : ∀ text rest, language text rest ↔ ∃ part, kind part ∧ text = spell part) {count : Nat}
    {text rest : List Char} :
    Repeated language count text rest ↔
      ∃ parts : List α, parts.length = count ∧ (∀ part ∈ parts, kind part) ∧ text = parts.flatMap spell := by
  constructor
  · intro repeated
    induction repeated with
    | none => exact ⟨[], rfl, nofun, rfl⟩
    | more first later ih =>
        obtain ⟨part, kept, rfl⟩ := (same _ _).mp first
        obtain ⟨parts, rfl, others, rfl⟩ := ih
        exact ⟨part :: parts, rfl, List.forall_mem_cons.mpr ⟨kept, others⟩, List.flatMap_cons.symm⟩
  · rintro ⟨parts, rfl, kept, rfl⟩
    induction parts with
    | nil => exact .none
    | cons part parts ih =>
        obtain ⟨first, others⟩ := List.forall_mem_cons.mp kept
        rw [List.flatMap_cons]
        exact .more ((same _ _).mpr ⟨part, first, rfl⟩) (ih others)

theorem looped_one {kind : CharClass} {least : Nat} {most : Option Nat} {text rest : List Char} :
    Looped (OneOf kind) least most text rest ↔
      least ≤ text.length ∧ Within text.length most ∧ ∀ c ∈ text, kind.accepts c = true := by
  have stretch (count : Nat) : Repeated (OneOf kind) count text rest ↔ Stretched kind count text rest := by
    rw [← repeated_congr (fun _ _ => stretched_one), repeated_stretched, Nat.mul_one]
  constructor
  · rintro ⟨count, enough, within, repeated⟩
    obtain ⟨rfl, inside⟩ := (stretch count).mp repeated
    exact ⟨enough, within, inside⟩
  · rintro ⟨enough, within, inside⟩
    exact ⟨_, enough, within, (stretch _).mpr ⟨rfl, inside⟩⟩

theorem looped_exactly {kind : CharClass} {count : Nat} {text rest : List Char} :
    Looped (OneOf kind) count (some count) text rest ↔ Stretched kind count text rest := by
  rw [looped_one]
  constructor
  · rintro ⟨enough, within, inside⟩
    exact ⟨Nat.le_antisymm (within count rfl) enough, inside⟩
  · rintro ⟨rfl, inside⟩
    refine ⟨Nat.le_refl _, ?_, inside⟩
    rintro _ ⟨⟩
    exact Nat.le_refl _

/-- A loop of at most one round. -/
theorem looped_once {text rest : List Char} :
    Looped language 0 (some 1) text rest ↔ text = [] ∨ language text rest := by
  constructor
  · rintro ⟨count, _, within, repeated⟩
    have single := within 1 rfl
    cases repeated with
    | none => exact Or.inl rfl
    | more first later =>
        obtain rfl := Nat.le_zero.mp (Nat.le_of_succ_le_succ single)
        cases later
        rw [List.nil_append] at first
        rw [List.append_nil]
        exact Or.inr first
  · rintro (rfl | taken)
    · exact ⟨0, Nat.le_refl 0, fun _ _ => Nat.zero_le _, .none⟩
    · refine ⟨1, Nat.zero_le 1, ?_, ?_⟩
      · rintro _ ⟨⟩
        exact Nat.le_refl 1
      · rw [← List.append_nil text]
        exact .more taken .none

/-- A stretch runs ahead as far as it can and gives back down to the fewest characters. -/
theorem stretchRounds_settles {lead : Option CharClass} (settles : Settles next goal)
    (led : ∀ place rest, goal place rest → OpensWith lead rest) (kind : CharClass) (least : Nat)
    (most : Option Nat) :
    Settles (stretchRounds kind .greedy least most lead next)
      (Through (Looped (OneOf kind) least most) goal) := by
  intro cursor fallback
  obtain ⟨taken, rest, farthest, reached⟩ := stride_farthest kind most cursor
  have within := farthest.within fun _ _ => Nat.zero_le _
  simp only [stretchRounds, reached]
  -- Less than the fewest characters are there, or the run can be given back down to them.
  by_cases short : taken.length < least
  · have never : ¬ Through (Looped (OneOf kind) least most) goal cursor.place cursor.after := by
      rintro ⟨front, back, split, taken, _⟩
      obtain ⟨enough, within, inside⟩ := looped_one.mp taken
      have := farthest.longest front back split inside (by rwa [Nat.zero_add])
      omega
    rw [if_pos short]
    simp [never, Attempt.answer]
  · rw [if_neg short, giveBack_answer settles led cursor (Nat.sub_le _ _)]
    apply or_congr_left
    constructor
    · rintro ⟨front, back, rfl, few, met⟩
      rw [List.length_append] at short few within
      refine ⟨front, back ++ rest, ?_, looped_one.mpr ⟨by omega, ?_, ?_⟩, met⟩
      · rw [farthest.whole, List.append_assoc]
      · intro bound given
        have := within bound given
        omega
      · exact fun c listed => farthest.inside c (List.mem_append_left _ listed)
    · rintro ⟨front, after, split, one, met⟩
      obtain ⟨enough, bounded, inside⟩ := looped_one.mp one
      have reach := farthest.longest front after split inside (by rwa [Nat.zero_add])
      -- No run is longer than the farthest one, so this one is a part of it from the left.
      rw [farthest.whole] at split
      obtain ⟨back, rfl, rfl⟩ : ∃ back, taken = front ++ back ∧ after = back ++ rest := by
        rcases List.append_eq_append_iff.mp split with ⟨back, rfl, rfl⟩ | ⟨back, rfl, rfl⟩
        · rw [List.length_append] at reach
          obtain rfl := List.length_eq_zero_iff.mp (by omega : back.length = 0)
          exact ⟨[], by simp, by simp⟩
        · exact ⟨back, rfl, rfl⟩
      refine ⟨front, back, rfl, ?_, met⟩
      rw [List.length_append] at short ⊢
      omega

end Ways

end TextChain
