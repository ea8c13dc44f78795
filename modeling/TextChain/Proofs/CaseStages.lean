import TextChain.Proofs.CaseForms
import TextChain.Proofs.SetPatterns
import TextChain.Proofs.Substitutions

/-!
The substitutions that names in snake case and in camel case are made by. Each of them puts something in the
place of runs of separators or of humps, so it reads every character with the one before it; substitutions
that follow each other are read as one. What an earlier one has removed comes back in none of the later ones.
-/

namespace TextChain

variable {chance : Edit.Chance}

namespace Editing

/-! ## Walks one after the other -/

section Walks
variable {f g h : Char → Char → List Char}

theorem walk_append (f : Char → Char → List Char) (before : Char) (front back : List Char) :
    walk f before (front ++ back) = walk f before front ++ walk f (front.getLastD before) back := by
  induction front generalizing before with
  | nil => rfl
  | cons c front ih => rw [List.cons_append, walk_cons, ih, walk_cons, List.append_assoc, List.getLastD_cons]

theorem walk_alike {first second : Char} {text : List Char} (same : ∀ c ∈ text.head?, f first c = f second c) :
    walk f first text = walk f second text := by
  cases text with
  | nil => rfl
  | cons c rest => rw [walk_cons, walk_cons, same c rfl]

theorem walk_walk (related : Char → Char → Prop)
    (step : ∀ last before c, related last before →
      walk g last (f before c) = h before c ∧ related ((f before c).getLastD last) c)
    {last before : Char} (begun : related last before) (text : List Char) :
    walk g last (walk f before text) = walk h before text := by
  induction text generalizing last before with
  | nil => rfl
  | cons c rest ih =>
      obtain ⟨here, later⟩ := step last before c begun
      rw [walk_cons, walk_append, here, ih later, walk_cons]

end Walks

/-! ## Gathering runs -/

/-- A run of characters of a kind becomes one low line. -/
def gatherChar (kind : Char → Bool) (before c : Char) : List Char :=
  if kind c then if kind before then [] else ['_'] else [c]

def gatheredLast (kind : Char → Bool) (before : Char) : Char :=
  if kind before then '_' else before

section Gathering
variable {kind : Char → Bool}

theorem gather_alike {first second : Char} (alike : kind first = kind second) (text : List Char) :
    walk (gatherChar kind) first text = walk (gatherChar kind) second text :=
  walk_alike fun c _ => by rw [gatherChar, gatherChar, alike]

theorem gather_skip (fresh : kind '.' = false) {c : Char} (outside : kind c = false) (rest : List Char) :
    walk (gatherChar kind) '.' (c :: rest) = c :: walk (gatherChar kind) '.' rest := by
  rw [walk_cons, gatherChar, outside, gather_alike (outside.trans fresh.symm)]
  rfl

theorem gather_rest {before : Char} (inside : kind before = true) (rest : List Char) :
    walk (gatherChar kind) before rest = walk (gatherChar kind) '.' (rest.dropWhile kind) := by
  induction rest generalizing before with
  | nil => rfl
  | cons c rest ih =>
      cases also : kind c with
      | true => rw [walk_cons, gatherChar, also, inside, List.dropWhile_cons_of_pos also, ← ih also]; rfl
      | false =>
          rw [List.dropWhile_cons_of_neg (Bool.eq_false_iff.mp also), walk_cons, walk_cons, gatherChar,
            gatherChar, also]
          rfl

theorem gather_run (fresh : kind '.' = false) {c : Char} (inside : kind c = true) (rest : List Char) :
    walk (gatherChar kind) '.' (c :: rest) =
      '_' :: walk (gatherChar kind) '.' (rest.dropWhile kind) := by
  rw [walk_cons, gatherChar, inside, fresh, gather_rest inside]
  rfl

theorem gather_low_lines (fresh : kind '.' = false) (text : List Char) :
    walk (gatherChar (· == '_')) '.' (walk (gatherChar kind) '.' text) =
      walk (gatherChar fun c => kind c || c == '_') '.' text := by
  refine walk_walk (fun last before => last = gatheredLast kind before) ?_ ?_ text
  · rintro _ before c rfl
    cases also : kind c <;> cases inside : kind before <;> cases low : c == '_' <;>
      cases behind : before == '_' <;>
      simp only [gatherChar, gatheredLast, also, inside, low, behind, walk_cons, walk_nil, List.append_nil,
        Bool.false_or, Bool.true_or, Bool.false_eq_true, if_true, if_false, beq_self_eq_true,
        List.getLastD_nil, List.getLastD_cons, and_self]
  · simp [gatheredLast, fresh]

end Gathering

/-! ## Humps -/

def humpChar (before c : Char) : List Char :=
  if isHump before c then ['_', c] else [c]

theorem isHump_inside {before c : Char} (hump : isHump before c = true) : isSeparator c = false := by
  have between : 65 ≤ c.toNat ∧ c.toNat ≤ 90 := by
    simp only [isHump, Ascii.isUpper, Bool.and_eq_true, decide_eq_true_eq] at hump
    exact hump.2
  have gaps : ∀ span ∈ separatorSpans, span.high < 65 ∨ 90 < span.low := by decide
  refine outside_separators fun span listed => ?_
  have gap := gaps span listed
  omega

def blankHumpChar (before c : Char) : List Char :=
  if isBlank c then gatherChar isBlank before c else humpChar before c

theorem isHump_low_line (before : Char) : isHump before '_' = false := Bool.and_false _

theorem hump_gathered (text : List Char) :
    walk humpChar '.' (walk (gatherChar isBlank) '.' text) = walk blankHumpChar '.' text := by
  refine walk_walk (fun last before => last = gatheredLast isBlank before) ?_ (by decide) text
  rintro _ before c rfl
  have bare : isHump '_' c = false := rfl
  cases blank : isBlank c with
  | true =>
      cases inside : isBlank before <;>
        simp [blankHumpChar, gatherChar, gatheredLast, humpChar, blank, inside, isHump_low_line]
  | false =>
      cases inside : isBlank before with
      | true =>
          have level : isHump before c = false := isHump_separator (by simp [isSeparator, inside]) c
          simp [blankHumpChar, gatherChar, gatheredLast, humpChar, blank, inside, level, bare]
      | false => simp [blankHumpChar, gatherChar, gatheredLast, humpChar, blank, inside]

def isJoint (c : Char) : Bool := c == '-' || c == '_'

theorem isSeparator_joint (c : Char) : isSeparator c = (isBlank c || isJoint c) :=
  Bool.or_assoc _ _ _

/-- Hyphens and low lines are gathered with what became low lines before, and with nothing else. -/
theorem joints_gathered (text : List Char) :
    walk (gatherChar isJoint) '.' (walk blankHumpChar '.' text) = walk snakeChar '.' text := by
  refine walk_walk (fun last before => last = gatheredLast isBlank before) ?_ (by decide) text
  rintro _ before c rfl
  have joint : isJoint '_' = true := rfl
  cases hump : isHump before c with
  | true =>
      -- Neither what stands before a hump nor the capital itself is a separator.
      have inside := isHump_inside hump
      have apart := isHump_part hump
      have own := inside
      rw [isSeparator_joint, Bool.or_eq_false_iff] at apart own
      simp [blankHumpChar, gatherChar, gatheredLast, humpChar, snakeChar, hump, inside, apart, own, joint]
  | false =>
      cases blank : isBlank c <;> cases inside : isBlank before <;> cases own : isJoint c <;>
        cases apart : isJoint before <;>
        simp [blankHumpChar, gatherChar, gatheredLast, humpChar, snakeChar, isSeparator_joint, hump, blank,
          inside, own, apart, joint]

theorem snake_stages (text : List Char) :
    walk (gatherChar (· == '_')) '.' (walk (gatherChar (· == '-')) '.'
      (walk humpChar '.' (walk (gatherChar isBlank) '.' text))) = walk snakeChar '.' text := by
  rw [hump_gathered, gather_low_lines rfl]
  exact joints_gathered text

end Editing

open Editing

/-! ## Patterns of runs -/

section Runs
variable {kind lead : CharClass}

theorem run_rewrites (fresh : kind.accepts '.' = false)
    (whole : ∀ c, kind.accepts c = true → lead.accepts c = true) :
    ((Matcher.stretch kind .greedy 1 none none).search lead).Rewrites (fun _ => ['_'])
      (walk (gatherChar kind.accepts) '.') := by
  refine rewrites_led rfl whole rfl (fun c rest outside => gather_skip fresh outside rest) ?_
  intro before place c rest inside
  have taken : (c :: rest).takeWhile kind.accepts = c :: rest.takeWhile kind.accepts :=
    List.takeWhile_cons_of_pos inside
  refine .hit List.takeWhile_append_dropWhile.symm
    (stretch_run (by rw [Cursor.fresh, taken]; exact List.cons_ne_nil _ _) fun _ => rfl) ?_
    (gather_run fresh inside rest)
  simp [Cursor.past, Cursor.fresh, taken]

/-- A run of two or more becomes one low line, and a low line alone is one already. -/
theorem double_rewrites (fresh : kind.accepts '.' = false) (only : ∀ c, kind.accepts c = true → c = '_')
    (whole : ∀ c, kind.accepts c = true → lead.accepts c = true) :
    ((Matcher.sequence (.step kind) (.stretch kind .greedy 1 none none)).search lead).Rewrites
      (fun _ => ['_']) (walk (gatherChar kind.accepts) '.') := by
  refine rewrites_led rfl whole rfl (fun c rest outside => gather_skip fresh outside rest) ?_
  intro before place c rest inside
  have stepped : (Matcher.sequence (.step kind) (.stretch kind .greedy 1 none none)).attempt (fun _ => true)
      (.fresh before (c :: rest) place) =
        ((Matcher.stretch kind .greedy 1 none none).attempt (fun _ => true)
          ((Cursor.fresh before (c :: rest) place).onto c rest)) := by
    simp only [Matcher.attempt, Matcher.run, Cursor.fresh, inside, if_true]
  by_cases single : rest.takeWhile kind.accepts = []
  · refine .missed (stepped.trans ?_) ?_
    · rw [Matcher.attempt, stretch_missed single]
      rfl
    · have left : rest.takeWhile kind.accepts ++ rest.dropWhile kind.accepts = rest :=
        List.takeWhile_append_dropWhile
      rw [single, List.nil_append] at left
      rw [gather_run fresh inside, left, only c inside]
  · refine .hit List.takeWhile_append_dropWhile.symm
      (stepped.trans (stretch_run single fun _ => rfl)) ?_ (gather_run fresh inside rest)
    simp [Cursor.past, Cursor.fresh, Cursor.onto, Nat.add_assoc, Nat.add_comm 1]

end Runs

def hyphenPattern : Pattern where
  source := "-+".toList
  flags := {}
  node := .loop .greedy 1 none (.letter '-'.toNat)
  groups := 0
  names := []

def lowLinePattern : Pattern where
  source := "__+".toList
  flags := {}
  node := .concat [.letter '_'.toNat, .loop .greedy 1 none (.letter '_'.toNat)]
  groups := 0
  names := []

theorem hyphen_read : Pattern.ofText? {} "-+".toList = .ok hyphenPattern := by
  decide +kernel

theorem lowLine_read : Pattern.ofText? {} "__+".toList = .ok lowLinePattern := by
  decide +kernel

theorem blanks_rewrite :
    Litter.blanks.pattern.search.Rewrites (fun _ => ['_']) (walk (gatherChar isBlank) '.') := by
  have same : (setClass {} false [.category .blank false]).accepts = isBlank :=
    funext Litter.blankSet_accepts
  rw [← same]
  exact run_rewrites (by decide) fun _ _ => rfl

theorem letterClass_same (d : Char) : (({} : Flags).letterClass d.toNat).accepts = (· == d) :=
  funext fun c => (letterClass_accepts d c).trans BEq.comm

theorem hyphens_rewrite :
    hyphenPattern.search.Rewrites (fun _ => ['_']) (walk (gatherChar (· == '-')) '.') := by
  rw [← letterClass_same]
  exact run_rewrites (by decide) fun _ _ => rfl

theorem low_lines_rewrite :
    lowLinePattern.search.Rewrites (fun _ => ['_']) (walk (gatherChar (· == '_')) '.') := by
  have only (c : Char) : (({} : Flags).letterClass '_'.toNat).accepts c = true → c = '_' := by
    rw [letterClass_same]
    exact eq_of_beq
  rw [← letterClass_same]
  exact double_rewrites (by decide) only fun _ _ => rfl

/-! ## The pattern of humps -/

def humpSource : String := "([a-z\\d])([A-Z])"

def humpPattern : Pattern where
  source := humpSource.toList
  flags := { ascii := true }
  node := .concat [.group 1 (.set false [.between 'a' 'z', .category .digit false]),
    .group 2 (.set false [.between 'A' 'Z'])]
  groups := 2
  names := []

theorem hump_read : Pattern.ofText? { ascii := true } humpSource.toList = .ok humpPattern := by
  decide +kernel

def humpTemplate : String := "\\1_\\2"

def humpParts : Template := [.group 1, .literal ['_'], .group 2]

theorem hump_template :
    (Value.text humpTemplate).toReplacement humpPattern = .ok (.template .text humpParts) := by
  rfl

def frontClass : CharClass :=
  setClass { ascii := true } false [.between 'a' 'z', .category .digit false]

def capitalClass : CharClass := setClass { ascii := true } false [.between 'A' 'Z']

theorem frontClass_accepts (c : Char) :
    frontClass.accepts c = (Ascii.isLower c || Ascii.isDigit c) := by
  have cased : ({ ascii := true } : Flags).ignoreCase = false := rfl
  have digit : ((Member.category .digit false).charClass { ascii := true }).accepts c = Ascii.isDigit c :=
    Bool.bne_false _
  simp only [frontClass, setClass_accepts cased, List.any_cons, List.any_nil, Bool.or_false,
    between_accepts cased, digit]
  rfl

theorem capitalClass_accepts (c : Char) : capitalClass.accepts c = Ascii.isUpper c := by
  have cased : ({ ascii := true } : Flags).ignoreCase = false := rfl
  simp only [capitalClass, setClass_accepts cased, List.any_cons, List.any_nil, Bool.or_false,
    between_accepts cased]
  rfl

theorem hump_matcher : humpPattern.node.matcher humpPattern.flags none =
    .sequence (.group 1 (.step frontClass)) (.group 2 (.step capitalClass)) := rfl

/-- Both characters are captured. -/
def humpStop (before : List Char) (place : Nat) (c d : Char) (behind : List Char) : Cursor where
  before := d :: c :: before
  after := behind
  place := place + 2
  extents := [(2, ⟨place + 1, d :: behind, some (place + 2)⟩), (1, ⟨place, c :: d :: behind, some (place + 1)⟩)]

section Attempts
variable {before : List Char} {place : Nat} {c d : Char} {behind : List Char}

theorem hump_found (front : frontClass.accepts c = true) (capital : capitalClass.accepts d = true) :
    (humpPattern.node.matcher humpPattern.flags none).attempt (fun _ => true)
        (.fresh before (c :: d :: behind) place) = some (humpStop before place c d behind) := by
  simp [hump_matcher, Matcher.attempt, Matcher.run, Cursor.fresh, Cursor.enter, Cursor.leave,
    Cursor.setExtent, Cursor.extent?, Cursor.onto, front, capital, Attempt.answer, humpStop]

theorem hump_missed {rest : List Char} (plain : ∀ d ∈ rest.head?, capitalClass.accepts d = false) :
    (humpPattern.node.matcher humpPattern.flags none).attempt (fun _ => true)
        (.fresh before (c :: rest) place) = none := by
  cases front : frontClass.accepts c with
  | false =>
      simp [hump_matcher, Matcher.attempt, Matcher.run, Cursor.fresh, Cursor.enter, Cursor.setExtent,
        Cursor.extent?, front, Attempt.answer]
  | true =>
      cases rest with
      | nil =>
          simp [hump_matcher, Matcher.attempt, Matcher.run, Cursor.fresh, Cursor.enter, Cursor.leave,
            Cursor.setExtent, Cursor.extent?, Cursor.onto, front, Attempt.answer]
      | cons d behind =>
          have small := plain d rfl
          simp [hump_matcher, Matcher.attempt, Matcher.run, Cursor.fresh, Cursor.enter, Cursor.leave,
            Cursor.setExtent, Cursor.extent?, Cursor.onto, front, small, Attempt.answer]

theorem hump_expanded :
    humpParts.expand ((Cursor.fresh before (c :: d :: behind) place).hit (humpStop before place c d behind)) =
      [c, '_', d] := by
  have ordered : ¬ place + 1 < place := Nat.not_lt.mpr (Nat.le_succ place)
  simp [humpParts, Template.expand, Cursor.fresh, Cursor.hit, humpStop, Hit.capture?, Extent.capture?,
    ordered]

end Attempts

namespace Editing

theorem isHump_front {before c : Char} :
    isHump before c = (frontClass.accepts before && capitalClass.accepts c) := by
  rw [frontClass_accepts, capitalClass_accepts, isHump]

theorem isHump_capital {before : Char} (capital : Ascii.isUpper before = true) (c : Char) :
    isHump before c = false := by
  refine Bool.eq_false_iff.mpr fun hump => ?_
  simp only [isHump, Ascii.isUpper, Ascii.isLower, Ascii.isDigit, Bool.and_eq_true, Bool.or_eq_true,
    decide_eq_true_eq] at hump capital
  have front : 97 ≤ before.toNat ∧ before.toNat ≤ 122 ∨ 48 ≤ before.toNat ∧ before.toNat ≤ 57 := hump.1
  have between : 65 ≤ before.toNat ∧ before.toNat ≤ 90 := capital
  omega

theorem hump_start {before : Char} {rest : List Char} (level : ∀ d ∈ rest.head?, isHump before d = false) :
    walk humpChar before rest = walk humpChar '.' rest :=
  walk_alike fun d first => by rw [humpChar, level d first]; rfl

theorem hump_skip {c : Char} {rest : List Char} (level : ∀ d ∈ rest.head?, isHump c d = false) :
    walk humpChar '.' (c :: rest) = c :: walk humpChar '.' rest := by
  rw [walk_cons, hump_start level]
  rfl

end Editing

theorem hump_rewrites : humpPattern.search.Rewrites humpParts.expand (walk humpChar '.') := by
  have begins : (humpPattern.node.matcher humpPattern.flags none).lead? = some frontClass := rfl
  have whole (c : Char) : frontClass.accepts c = true →
      (humpPattern.node.leadClass humpPattern.flags).accepts c = true := id
  refine rewrites_led begins whole rfl ?_ ?_
  · intro c rest outside
    exact hump_skip fun d _ => by rw [isHump_front, outside, Bool.false_and]
  · intro before place c rest front
    by_cases hump : ∃ d behind, rest = d :: behind ∧ capitalClass.accepts d = true
    · obtain ⟨d, behind, rfl, capital⟩ := hump
      have stands : isHump c d = true := by rw [isHump_front, front, capital, Bool.and_self]
      have again : walk humpChar d behind = walk humpChar '.' behind :=
        hump_start fun e _ => isHump_capital ((capitalClass_accepts d).symm.trans capital) e
      have first : humpChar '.' c = [c] := rfl
      refine .hit List.singleton_append.symm (hump_found front capital) rfl ?_
      rw [hump_expanded, walk_cons, walk_cons, first, humpChar, stands, again]
      rfl
    · have plain : ∀ d ∈ rest.head?, capitalClass.accepts d = false := by
        intro d first
        obtain ⟨behind, rfl⟩ := List.head?_eq_some_iff.mp first
        exact Bool.eq_false_iff.mpr fun capital => hump ⟨d, behind, rfl, capital⟩
      exact .missed (hump_missed plain) (hump_skip fun d first => by
        rw [isHump_front, plain d first, Bool.and_false])

/-! ## The pattern of words -/

def wordSource : String := "[-_\\s]+(.)?"

/-- Separators, and the character that begins the word behind them, if there is one. -/
def wordPattern : Pattern where
  source := wordSource.toList
  flags := {}
  node := .concat [
    .loop .greedy 1 none (.set false [.point '-'.toNat, .point '_'.toNat, .category .blank false]),
    .loop .greedy 0 (some 1) (.group 1 .any)]
  groups := 1
  names := []

theorem word_read : Pattern.ofText? {} wordSource.toList = .ok wordPattern := by
  decide +kernel

def separatorClass : CharClass :=
  setClass {} false [.point '-'.toNat, .point '_'.toNat, .category .blank false]

theorem separatorClass_accepts (c : Char) : separatorClass.accepts c = isSeparator c := by
  have cased : ({} : Flags).ignoreCase = false := rfl
  simp only [separatorClass, setClass_accepts cased, List.any_cons, List.any_nil, Bool.or_false,
    point_accepts cased, Litter.blank_accepts, isSeparator]
  rw [Bool.or_comm (isBlank c), ← Bool.or_assoc, Bool.or_right_comm]

/-- The character behind the separators, where there is one, is captured. -/
def wordStop (start : Cursor) : List Char → Cursor
  | [] => start
  | d :: behind =>
      { before := d :: start.before
        after := behind
        place := start.place + 1
        extents := [(1, ⟨start.place, d :: behind, some (start.place + 1)⟩)] }

theorem optional_answer {start : Cursor} (fresh : start.extents = [])
    (inLine : ∀ d ∈ start.after.head?, d ≠ '\n') (fallback : Fallback) :
    ((Matcher.loop .greedy 0 (some 1) (.group 1 (.step ({} : Flags).anyClass))).run
      (fun stop _ => .over (some stop)) start fallback).answer = some (wordStop start start.after) := by
  obtain ⟨before, after, place, extents⟩ := start
  obtain rfl : extents = [] := fresh
  cases after with
  | nil =>
      simp [Matcher.run, loopRounds, rounds, manyRounds, roomAt, Tally.isOver, Cursor.enter,
        Cursor.setExtent, Cursor.extent?, Attempt.answer, wordStop]
  | cons d behind =>
      have accepted : ({} : Flags).anyClass.accepts d = true := bne_iff_ne.mpr (inLine d rfl)
      simp [Matcher.run, loopRounds, rounds, manyRounds, roomAt, Tally.isOver, Tally.after, Cursor.enter,
        Cursor.leave, Cursor.setExtent, Cursor.extent?, Cursor.onto, accepted, Attempt.answer, wordStop]

theorem word_attempt {start : Cursor} (fresh : start.extents = [])
    (begun : start.after.takeWhile separatorClass.accepts ≠ []) :
    (wordPattern.node.matcher wordPattern.flags none).attempt (fun _ => true) start =
      some (wordStop (start.past (start.after.takeWhile separatorClass.accepts)
        (start.after.dropWhile separatorClass.accepts)) (start.after.dropWhile separatorClass.accepts)) := by
  have inLine : ∀ d ∈ (start.after.dropWhile separatorClass.accepts).head?, d ≠ '\n' := by
    rintro d first rfl
    exact absurd (dropWhile_first first) (by decide)
  exact stretch_run begun (@optional_answer (start.past _ _) fresh inLine)

namespace Editing

theorem camel_alike {first second : Char} (alike : isSeparator first = isSeparator second)
    (text : List Char) : walk camelChar first text = walk camelChar second text :=
  walk_alike fun c _ => by rw [camelChar, camelChar, alike]

theorem camel_skip {c : Char} (outside : isSeparator c = false) (rest : List Char) :
    walk camelChar '.' (c :: rest) = c :: walk camelChar '.' rest := by
  have first : camelChar '.' c = [c] := by
    rw [camelChar, outside]
    rfl
  have start : isSeparator '.' = false := by decide
  rw [walk_cons, first, camel_alike (outside.trans start.symm)]
  rfl

theorem camel_rest {before : Char} (parting : isSeparator before = true) (rest : List Char) :
    walk camelChar before rest =
      upper ((rest.dropWhile isSeparator).take 1) ++
        walk camelChar '.' ((rest.dropWhile isSeparator).drop 1) := by
  induction rest generalizing before with
  | nil => rfl
  | cons c rest ih =>
      cases inside : isSeparator c with
      | true => rw [walk_cons, camelChar, inside, List.dropWhile_cons_of_pos inside, ← ih inside]; rfl
      | false =>
          have start : isSeparator '.' = false := by decide
          rw [List.dropWhile_cons_of_neg (Bool.eq_false_iff.mp inside), walk_cons, camelChar, inside, parting,
            camel_alike (inside.trans start.symm)]
          simp [upper]

end Editing

def wordBegin (hit : Hit) : List Char := upper ((hit.capture? 1).getD [])

theorem wordBegin_stop {start : Cursor} (fresh : start.extents = []) (origin : Cursor) (tail : List Char) :
    wordBegin (origin.hit (wordStop start tail)) = upper (tail.take 1) := by
  cases tail with
  | nil => simp [wordBegin, wordStop, Cursor.hit, Hit.capture?, fresh]
  | cons d behind =>
      have ordered : ¬ start.place + 1 < start.place := Nat.not_lt.mpr (Nat.le_succ _)
      simp [wordBegin, wordStop, Cursor.hit, Hit.capture?, Extent.capture?, ordered]

theorem word_rewrites : wordPattern.search.Rewrites wordBegin (walk camelChar '.') := by
  have begins : (wordPattern.node.matcher wordPattern.flags none).lead? = some separatorClass := rfl
  have whole (c : Char) : separatorClass.accepts c = true →
      (wordPattern.node.leadClass wordPattern.flags).accepts c = true := fun _ => rfl
  have parting : separatorClass.accepts = isSeparator := funext separatorClass_accepts
  refine rewrites_led begins whole rfl ?_ ?_
  · intro c rest outside
    exact camel_skip ((separatorClass_accepts c).symm.trans outside) rest
  · intro before place c rest inside
    have taken : (c :: rest).takeWhile separatorClass.accepts = c :: rest.takeWhile separatorClass.accepts :=
      List.takeWhile_cons_of_pos inside
    have left : (c :: rest).dropWhile separatorClass.accepts = rest.dropWhile separatorClass.accepts :=
      List.dropWhile_cons_of_pos inside
    have found := @word_attempt (.fresh before (c :: rest) place) rfl
      (by rw [Cursor.fresh, taken]; exact List.cons_ne_nil _ _)
    have split : rest = rest.takeWhile separatorClass.accepts ++
        (rest.dropWhile separatorClass.accepts).take 1 ++
          (rest.dropWhile separatorClass.accepts).drop 1 := by
      rw [List.append_assoc, List.take_append_drop, List.takeWhile_append_dropWhile]
    refine .hit split found ?_ ?_
    · simp only [Cursor.fresh, taken, left]
      cases rest.dropWhile separatorClass.accepts <;>
        simp [wordStop, Cursor.past, Nat.add_assoc]
    · rw [wordBegin_stop rfl]
      simp only [Cursor.fresh, left]
      rw [parting, walk_cons, camelChar, ← separatorClass_accepts, inside, camel_rest (parting ▸ inside)]
      rfl

/-! ## Steps -/

def Leads (chance : Edit.Chance) (label : String) (subject : Name) (text : String) : Prop :=
  chance.catalogue.answer .transformation label [] subject.toValue = .ok (.text text)

theorem snake_leads (subject : Name) :
    Leads chance "to_snake_case" subject (.ofList (snakeCase subject.label.toList)) := by
  rw [Leads, answer_transformation Edit.snakeCase rfl rfl]
  cases subject <;> rfl

theorem camel_leads (subject : Name) :
    Leads chance "to_camel_case" subject (.ofList (camelCase subject.label.toList)) := by
  rw [Leads, answer_transformation Edit.camelCase rfl rfl]
  cases subject <;> rfl

def substitution (p : Pattern) (replacement : String) : String × Settings :=
  ("replace_all", [("search", .pattern p), ("replacement", .text replacement)])

theorem substitution_granted (p : Pattern) (replacement : String) :
    chance.Grants (substitution p replacement) Edit.replacedAll :=
  ⟨rfl, rfl⟩

theorem substitution_work {p : Pattern} {new : String} {replacement : Replacement}
    {make : Hit → List Char} {result : List Char → List Char} (textual : p.binary = false)
    (read : (Value.text new).toReplacement p = .ok replacement)
    (written : ∀ hit, replacement.piece .text hit = .ok (some (.chars (make hit))))
    (rewrites : p.search.Rewrites make result) (subject : Name) :
    Edit.replacedAll.work (.text (substitution p new).1) (substitution p new).2 subject.toValue =
      .ok (Name.text (.ofList (result subject.label.toList))).toValue := by
  rw [← rewrites.spliced_cuts]
  exact replaceBy_made textual read written p.search.cuts subject

def snakeStages : List (String × Settings) :=
  [substitution Litter.blanks.pattern "_", substitution humpPattern humpTemplate,
    substitution hyphenPattern "_", substitution lowLinePattern "_", ("to_lower_case", [])]

theorem snake_staged (subject : Name) :
    chance.catalogue.chained snakeStages subject.toValue =
      .ok (.text (.ofList (snakeCase subject.label.toList))) := by
  have small : chance.Grants ("to_lower_case", []) Edit.lowerCase := ⟨rfl, rfl⟩
  have granted : List.Forall₂ chance.Grants snakeStages
      [Edit.replacedAll, Edit.replacedAll, Edit.replacedAll, Edit.replacedAll, Edit.lowerCase] :=
    .cons (substitution_granted _ _) (.cons (substitution_granted _ _) (.cons (substitution_granted _ _)
      (.cons (substitution_granted _ _) (.cons small .nil))))
  have line (p : Pattern) : (Value.text "_").toReplacement p = .ok (.literal (.text "_")) := rfl
  have written (hit : Hit) : (Replacement.literal (.text "_")).piece .text hit = .ok (some (.chars ['_'])) :=
    rfl
  have expanded (hit : Hit) : (Replacement.template .text humpParts).piece .text hit =
      .ok (some (.chars (humpParts.expand hit))) := rfl
  have lowered (name : Name) : Edit.lowerCase.work (.text "to_lower_case") [] name.toValue =
      .ok (.text (.ofList (lower name.label.toList))) := by
    cases name <;> rfl
  rw [chained_answer granted]
  simp only [snakeStages, List.zip_cons_cons, List.zip_nil_left, List.foldlM_cons, List.foldlM_nil]
  rw [substitution_work rfl (line _) written blanks_rewrite, ok_bind,
    substitution_work rfl hump_template expanded hump_rewrites, ok_bind,
    substitution_work rfl (line _) written hyphens_rewrite, ok_bind,
    substitution_work rfl (line _) written low_lines_rewrite, ok_bind, lowered, ok_bind]
  simp only [Name.label, String.toList_ofList, snake_stages]
  rfl

theorem camel_staged (text : List Char) :
    camelCase text = lowerFirst (wordPattern.substituted wordBegin text) := by
  rw [Pattern.substituted, word_rewrites.spliced_cuts, camelCase_eq]

/-- Names in snake case have no white space, no hyphens, no two low lines in a row and no ASCII capitals, and
names in camel case have no separators at all. Both forms stay as they are, and neither depends on what a run
of separators is made of. The one is what four substitutions in turn and a mapping to small letters answer,
the other what comes of a substitution and a small letter in front. -/
theorem case_forms_are_normal (chance : Edit.Chance) (subject : Name) :
    ∃ snake camel : String,
      Leads chance "to_snake_case" subject snake ∧ Leads chance "to_camel_case" subject camel ∧
      (∀ c ∈ snake.toList, isBlank c = false ∧ c ≠ '-' ∧ Ascii.isUpper c = false) ∧
      ¬ ['_', '_'] <:+: snake.toList ∧
      (∀ c ∈ camel.toList, isBlank c = false ∧ c ≠ '-' ∧ c ≠ '_') ∧
      Leads chance "to_snake_case" (.text snake) snake ∧ Leads chance "to_camel_case" (.text camel) camel ∧
      (∀ other : Name, Reseparated subject.label.toList other.label.toList →
        Leads chance "to_snake_case" other snake ∧ Leads chance "to_camel_case" other camel) ∧
      (∃ blanks humps hyphens lines : Pattern,
        Pattern.ofText? {} "\\s+".toList = .ok blanks ∧
        Pattern.ofText? { ascii := true } "([a-z\\d])([A-Z])".toList = .ok humps ∧
        Pattern.ofText? {} "-+".toList = .ok hyphens ∧ Pattern.ofText? {} "__+".toList = .ok lines ∧
        chance.catalogue.chained [substitution blanks "_", substitution humps "\\1_\\2",
          substitution hyphens "_", substitution lines "_", ("to_lower_case", [])] subject.toValue =
            .ok (.text snake)) ∧
      ∃ words : Pattern, Pattern.ofText? {} "[-_\\s]+(.)?".toList = .ok words ∧
        camel.toList = lowerFirst (words.substituted wordBegin subject.label.toList) := by
  refine ⟨_, _, snake_leads subject, camel_leads subject, ?clean, ?single, ?whole, ?snake, ?camel, ?alike,
    ⟨_, _, _, _, Litter.blanks.pattern_read, hump_read, hyphen_read, lowLine_read, snake_staged subject⟩,
    wordPattern, word_read, ?words⟩
  case clean =>
    rw [String.toList_ofList]
    intro c listed
    obtain ⟨blank, hyphen⟩ := snakeCase_clean _ c listed
    exact ⟨blank, hyphen, snakeCase_small _ c listed⟩
  case single =>
    rw [String.toList_ofList]
    exact (snakeCase_parted _).single
  case whole =>
    rw [String.toList_ofList]
    exact fun c listed => isSeparator_false.mp (camelCase_part _ c listed)
  case snake =>
    -- The name is put into its form once more, and the walk changes nothing.
    have again := @snake_leads chance (.text (.ofList (snakeCase subject.label.toList)))
    rwa [Name.label, String.toList_ofList, snakeCase_snakeCase] at again
  case camel =>
    have again := @camel_leads chance (.text (.ofList (camelCase subject.label.toList)))
    rwa [Name.label, String.toList_ofList, camelCase_camelCase] at again
  case alike =>
    intro other alike
    -- Both walks read a run of separators as one, whatever it is made of.
    have snake := @snake_leads chance other
    have camel := @camel_leads chance other
    rw [snakeCase_eq, ← alike.walk_eq snakeChar_merges] at snake
    rw [camelCase_eq, ← alike.walk_eq camelChar_merges] at camel
    exact ⟨snake, camel⟩
  case words =>
    rw [String.toList_ofList]
    exact camel_staged _

end TextChain
