import TextChain.Proofs.PatternLanguages
import TextChain.Proofs.Replacements

/-!
Patterns whose hits are told by the characters that come next, and what becomes of a text when something is
put in the place of every hit. Where a search either passes over a character or takes a text with it, one
equation for each of the two cases says what the whole substitution comes to. Anchors, looks behind and
references make a hit depend on more than that; they are not dealt with here.
-/

namespace TextChain

/-! ## Equations for a search -/

def Cursor.fresh (before after : List Char) (place : Nat) : Cursor := { before, after, place }

/-- A search passes over a character, or it takes a text that begins with it. Either way the result is what
becomes of that much, and then the result for the rest. -/
inductive Search.Advances (search : Search) (make : Hit → List Char) (result : List Char → List Char)
    (before : List Char) (place : Nat) (c : Char) (rest : List Char) : Prop
  | missed (nowhere : search.any (.fresh before (c :: rest) place) = none)
      (same : result (c :: rest) = c :: result rest)
  | hit {more behind : List Char} {stop : Cursor} (whole : rest = more ++ behind)
      (found : search.any (.fresh before (c :: rest) place) = some stop)
      (width : stop.place = place + (more.length + 1))
      (same : result (c :: rest) =
        make ((Cursor.fresh before (c :: rest) place).hit stop) ++ result behind)

structure Search.Rewrites (search : Search) (make : Hit → List Char) (result : List Char → List Char) :
    Prop where
  ended : ∀ before place, search.any (.fresh before [] place) = none
  nothing : result [] = []
  advances : ∀ before place c rest, search.Advances make result before place c rest

section Rewriting
variable {search : Search} {make : Hit → List Char} {result : List Char → List Char}

theorem rewrites_cutsFrom (rewrites : search.Rewrites make result) (cuts : List Search.Cut) (gap : List Char)
    (skip : Nat) (passed : skip ≠ 0 → gap = []) (before : List Char) (place : Nat) (text : List Char) :
    spliced make (search.cutsFrom cuts gap skip before place text) =
      spliced make (cuts.reverse, gap.reverse) ++ result (text.drop skip) := by
  induction text generalizing cuts gap skip before place with
  | nil =>
      have nowhere : search.any { before, after := [], place } = none := rewrites.ended before place
      simp [Search.cutsFrom, nowhere, rewrites.nothing]
  | cons c rest ih =>
      cases skip with
      | succ n =>
          obtain rfl := passed (Nat.succ_ne_zero n)
          exact ih cuts [] n (fun _ => rfl) _ _
      | zero =>
          rw [List.drop_zero]
          cases rewrites.advances before place c rest with
          | missed nowhere same =>
              rw [cutsFrom_missed nowhere, ih cuts (c :: gap) 0 (absurd rfl), same]
              simp [spliced]
          | @hit more behind stop whole found width same =>
              -- What the hit takes behind this character is passed over.
              have moved : stop.place ≠ place := by omega
              have behindHit : stop.place - place - 1 = more.length := by omega
              rw [cutsFrom_hit found moved, behindHit, ih _ [] _ (fun _ => rfl), whole, List.drop_left, ← whole,
                same]
              simp [spliced, Cursor.fresh]

theorem Search.Rewrites.spliced_cuts (rewrites : search.Rewrites make result) (text : List Char) :
    spliced make (search.cuts text) = result text :=
  rewrites_cutsFrom rewrites [] [] 0 (absurd rfl) [] 0 text

end Rewriting

def Pattern.substituted (p : Pattern) (make : Hit → List Char) (text : List Char) : List Char :=
  spliced make (p.search.cuts text)

/-! ## Searches for a first class -/

section Leading
variable {matcher : Matcher} {kind lead : CharClass} {make : Hit → List Char}
  {result : List Char → List Char}

theorem search_led (first : matcher.lead? = some kind)
    (whole : ∀ c, kind.accepts c = true → lead.accepts c = true) (before : List Char) (place : Nat) (c : Char)
    (rest : List Char) :
    (matcher.search lead).any (.fresh before (c :: rest) place) =
      if kind.accepts c then matcher.attempt (fun _ => true) (.fresh before (c :: rest) place) else none := by
  cases inside : kind.accepts c with
  | true => simp [Matcher.search, first, Cursor.meets, Cursor.fresh, inside, whole c inside]
  | false => simp [Matcher.search, first, Cursor.meets, Cursor.fresh, inside]

/-- Where every match begins with a character of a class, only those characters need a closer look. -/
theorem rewrites_led (first : matcher.lead? = some kind)
    (whole : ∀ c, kind.accepts c = true → lead.accepts c = true) (nothing : result [] = [])
    (skips : ∀ c rest, kind.accepts c = false → result (c :: rest) = c :: result rest)
    (takes : ∀ before place c rest, kind.accepts c = true →
      (Search.mk (matcher.attempt fun _ => true) fun _ => none).Advances make result before place c rest) :
    (matcher.search lead).Rewrites make result where
  ended before place := by simp [Matcher.search, first, Cursor.meets, Cursor.fresh]
  nothing := nothing
  advances before place c rest := by
    have led := search_led first whole before place c rest
    cases inside : kind.accepts c with
    | false => exact .missed (by rw [led, inside]; rfl) (skips c rest inside)
    | true =>
        rw [inside] at led
        cases takes before place c rest inside with
        | missed nowhere same => exact .missed (led.trans nowhere) same
        | hit split found width same => exact .hit split (led.trans found) width same

end Leading

/-! ## Runs -/

section Runs
variable {kind : CharClass}

theorem strideFrom_run (start : Cursor) (count : Nat) (before text : List Char) :
    strideFrom kind start none count before text =
      ⟨count + (text.takeWhile kind.accepts).length,
        { start with
          before := (text.takeWhile kind.accepts).reverse ++ before
          after := text.dropWhile kind.accepts
          place := start.place + (count + (text.takeWhile kind.accepts).length) }⟩ := by
  induction text generalizing count before with
  | nil => rfl
  | cons c rest ih =>
      rw [strideFrom]
      cases inside : kind.accepts c with
      | false => simp [isBelow, inside]
      | true => simp [isBelow, inside, ih, Nat.add_assoc, Nat.add_comm 1]

theorem stride_run (start : Cursor) :
    stride kind none start =
      ⟨(start.after.takeWhile kind.accepts).length,
        start.past (start.after.takeWhile kind.accepts) (start.after.dropWhile kind.accepts)⟩ := by
  rw [stride, strideFrom_run, Nat.zero_add]
  rfl

theorem stretch_missed {next : Next} {start : Cursor} {fallback : Fallback}
    (none : start.after.takeWhile kind.accepts = []) :
    (Matcher.stretch kind .greedy 1 .none .none).run next start fallback = .further fallback := by
  simp only [Matcher.run, stretchRounds, stride_run, none]
  rfl

theorem stretch_run {next : Next} {start : Cursor} {fallback : Fallback} {answer : Cursor}
    (begun : start.after.takeWhile kind.accepts ≠ [])
    (goes : ∀ fallback, (next (start.past (start.after.takeWhile kind.accepts)
      (start.after.dropWhile kind.accepts)) fallback).answer = some answer) :
    ((Matcher.stretch kind .greedy 1 none none).run next start fallback).answer = some answer := by
  have enough : ¬ (start.after.takeWhile kind.accepts).length < 1 := by
    simpa [Nat.lt_one_iff] using begun
  simp only [Matcher.run, stretchRounds, stride_run, enough, if_false]
  generalize (start.after.takeWhile kind.accepts).length - 1 = count
  cases count <;> exact goes _

end Runs

end TextChain
