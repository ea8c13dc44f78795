import TextChain.Proofs.Escapes
import TextChain.Proofs.SetPatterns
import TextChain.Proofs.Substitutions

/-!
The two patterns that marks are escaped and taken back with. One hits every mark, the other a backslash with
a mark behind it. What is put in the place of the hits makes the same texts as the two scans.
-/

namespace TextChain

open Editing

variable {chance : Edit.Chance}

def markMembers : List Member := patternMarks.map fun mark => .point mark.toNat

def markClass : CharClass := setClass {} false markMembers

theorem markClass_accepts (c : Char) : markClass.accepts c = isMark c := by
  have cased : ({} : Flags).ignoreCase = false := rfl
  rw [markClass, setClass_accepts cased, markMembers, List.any_map, isMark, List.contains_eq_any_beq]
  simp only [Function.comp_def, point_accepts cased]

/-! ## Escaping -/

def markPattern : Pattern := setPattern "[-/\\\\^$*+?.()|[\\]\x7b\x7d]" {} false markMembers

theorem mark_read : Pattern.ofText? {} markPattern.source = .ok markPattern := by
  decide +kernel

def marked (hit : Hit) : List Char := '\\' :: hit.text

theorem marks_rewrite : markPattern.search.Rewrites marked escapeMarks := by
  have begins : (markPattern.node.matcher markPattern.flags none).lead? = some markClass := rfl
  have whole (c : Char) : markClass.accepts c = true →
      (markPattern.node.leadClass markPattern.flags).accepts c = true := id
  refine rewrites_led begins whole rfl ?_ ?_
  · intro c rest outside
    rw [escapeMarks_cons, escapedToken_plain ((markClass_accepts c).symm.trans outside)]
    rfl
  · intro before place c rest inside
    have found : (markPattern.node.matcher markPattern.flags none).attempt (fun _ => true)
        (.fresh before (c :: rest) place) = some ((Cursor.fresh before (c :: rest) place).past [c] rest) :=
      (step_attempt markClass _).trans (if_pos inside)
    refine .hit (List.nil_append rest).symm found rfl ?_
    rw [escapeMarks_cons, escapedToken_mark ((markClass_accepts c).symm.trans inside)]
    simp [marked, Cursor.hit, Cursor.past, Cursor.fresh, Token.text]

/-! ## Taking escapes back -/

def escapePattern : Pattern where
  source := "\\\\([-/\\\\^$*+?.()|[\\]\x7b\x7d])".toList
  flags := {}
  node := .concat [.letter '\\'.toNat, .group 1 (.set false markMembers)]
  groups := 1
  names := []

theorem escape_read : Pattern.ofText? {} escapePattern.source = .ok escapePattern := by
  decide +kernel

def backslashClass : CharClass := ({} : Flags).letterClass '\\'.toNat

def unmarked (hit : Hit) : List Char := (hit.capture? 1).getD []

section Scan
variable {c : Char} {rest : List Char}

theorem unescapeFrom_done (done : List Char) (pending : Bool) (text : List Char) :
    unescapeFrom done pending text = done.reverse ++ unescapeFrom [] pending text := by
  induction text generalizing done pending with
  | nil => cases pending <;> simp [unescapeFrom]
  | cons c rest ih =>
      unfold unescapeFrom
      split
      · split
        · rw [ih (c :: done), ih [c]]
          simp
        · rw [ih (c :: '\\' :: done), ih [c, '\\']]
          simp
      · split
        · exact ih done true
        · rw [ih (c :: done), ih [c]]
          simp

theorem unescape_plain (plain : c ≠ '\\') : unescapeMarks (c :: rest) = c :: unescapeMarks rest := by
  rw [unescapeMarks, unescapeFrom, if_neg Bool.false_ne_true, if_neg plain, unescapeFrom_done]
  rfl

theorem unescape_mark (mark : isMark c = true) :
    unescapeMarks ('\\' :: c :: rest) = c :: unescapeMarks rest := by
  have pending : unescapeMarks ('\\' :: c :: rest) = unescapeFrom [c] false rest := by
    simp [unescapeMarks, unescapeFrom, mark]
  rw [pending, unescapeFrom_done]
  rfl

theorem unescape_lone (bare : ∀ d ∈ rest.head?, isMark d = false) :
    unescapeMarks ('\\' :: rest) = '\\' :: unescapeMarks rest := by
  cases rest with
  | nil => rfl
  | cons d behind =>
      have unmarked := bare d rfl
      have pending : unescapeMarks ('\\' :: d :: behind) = unescapeFrom [d, '\\'] false behind := by
        simp [unescapeMarks, unescapeFrom, unmarked]
      rw [pending, unescapeFrom_done, unescape_plain (unmarked_backslash unmarked)]
      rfl

end Scan

section Attempts
variable {before rest : List Char} {place : Nat} {c : Char}

theorem escape_matcher : escapePattern.node.matcher escapePattern.flags none =
    .sequence (.step backslashClass) (.group 1 (.step markClass)) := rfl

theorem backslash_accepted : backslashClass.accepts '\\' = true := rfl

def escapeStop (before : List Char) (place : Nat) (c : Char) (rest : List Char) : Cursor where
  before := c :: '\\' :: before
  after := rest
  place := place + 2
  extents := [(1, ⟨place + 1, c :: rest, some (place + 2)⟩)]

theorem escape_found (mark : isMark c = true) :
    (escapePattern.node.matcher escapePattern.flags none).attempt (fun _ => true)
        (.fresh before ('\\' :: c :: rest) place) = some (escapeStop before place c rest) := by
  have accepted : markClass.accepts c = true := (markClass_accepts c).trans mark
  simp [escape_matcher, Matcher.attempt, Matcher.run, Cursor.fresh, Cursor.enter, Cursor.leave,
    Cursor.setExtent, Cursor.extent?, Cursor.onto, backslash_accepted, accepted, Attempt.answer, escapeStop]

theorem escape_missed (bare : ∀ d ∈ rest.head?, isMark d = false) :
    (escapePattern.node.matcher escapePattern.flags none).attempt (fun _ => true)
        (.fresh before ('\\' :: rest) place) = none := by
  cases rest with
  | nil =>
      simp [escape_matcher, Matcher.attempt, Matcher.run, Cursor.fresh, Cursor.enter, Cursor.setExtent,
        Cursor.extent?, Cursor.onto, backslash_accepted, Attempt.answer]
  | cons d behind =>
      have refused : markClass.accepts d = false := (markClass_accepts d).trans (bare d rfl)
      simp [escape_matcher, Matcher.attempt, Matcher.run, Cursor.fresh, Cursor.enter, Cursor.setExtent,
        Cursor.extent?, Cursor.onto, backslash_accepted, refused, Attempt.answer]

theorem unmarked_stop :
    unmarked ((Cursor.fresh before ('\\' :: c :: rest) place).hit (escapeStop before place c rest)) = [c] := by
  have ordered : ¬ place + 2 < place + 1 := by omega
  have width : place + 2 - (place + 1) = 1 := by omega
  simp [unmarked, Cursor.hit, escapeStop, Hit.capture?, Extent.capture?, ordered, width]

end Attempts

theorem escapes_rewrite : escapePattern.search.Rewrites unmarked unescapeMarks := by
  have begins : (escapePattern.node.matcher escapePattern.flags none).lead? = some backslashClass := rfl
  have whole (c : Char) : backslashClass.accepts c = true →
      (escapePattern.node.leadClass escapePattern.flags).accepts c = true := fun _ => rfl
  refine rewrites_led begins whole rfl ?_ ?_
  · intro c rest outside
    rw [backslashClass, letterClass_accepts] at outside
    exact unescape_plain fun same => Bool.eq_false_iff.mp outside (same ▸ beq_self_eq_true _)
  · intro before place c rest inside
    rw [backslashClass, letterClass_accepts, beq_iff_eq] at inside
    subst inside
    by_cases escaped : ∃ d behind, rest = d :: behind ∧ isMark d = true
    · obtain ⟨d, behind, rfl, mark⟩ := escaped
      refine .hit List.singleton_append.symm (escape_found mark) rfl ?_
      rw [unmarked_stop, unescape_mark mark]
      rfl
    · have bare : ∀ d ∈ rest.head?, isMark d = false := by
        intro d first
        obtain ⟨behind, rfl⟩ := List.head?_eq_some_iff.mp first
        exact Bool.eq_false_iff.mpr fun mark => escaped ⟨d, behind, rfl, mark⟩
      exact .missed (escape_missed bare) (unescape_lone bare)

theorem escapes_are_substitutions (name : Name) :
    ∃ marks escapes : Pattern,
      Pattern.ofText? {} "[-/\\\\^$*+?.()|[\\]\x7b\x7d]".toList = .ok marks ∧
      Pattern.ofText? {} "\\\\([-/\\\\^$*+?.()|[\\]\x7b\x7d])".toList = .ok escapes ∧
      chance.catalogue.answer .transformation "escape_string" [] name.toValue =
        .ok (.ofChars (marks.substituted marked name.label.toList)) ∧
      chance.catalogue.answer .transformation "un_escape_string" [] name.toValue =
        .ok (.ofChars (escapes.substituted unmarked name.label.toList)) := by
  refine ⟨markPattern, escapePattern, mark_read, escape_read, ?_, ?_⟩
  · rw [Pattern.substituted, marks_rewrite.spliced_cuts, escape_answer]
  · rw [Pattern.substituted, escapes_rewrite.spliced_cuts, unescape_answer]

end TextChain
