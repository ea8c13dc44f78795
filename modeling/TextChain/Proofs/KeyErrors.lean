import TextChain.Catalogue
import TextChain.Proofs.Refusals
import TextChain.Proofs.TextResults

/-!
Errors of missing keys. They come from a name that a dictionary does not have, from a setting that is not
there, and from functions; no other operator fails with one. So a step of the catalogue that has all the
settings its schema requires does not fail with one on any text, unless a function is called in the place of
a replacement.
-/

namespace TextChain

abbrev MissesNoKey {α : Type} (outcome : Outcome α) : Prop :=
  FailsOnly (·.failureClass ≠ .kind .key) outcome

theorem refuse_misses {α : Type} (fault : OperandFault) : MissesNoKey (refuse fault : Outcome α) := by
  refine .failed ?_
  cases fault <;> exact nofun

/-! ## Operators -/

namespace Value

section Containers
variable (value other place : Value)

theorem method_misses (name : String) : MissesNoKey (value.method name) := by
  unfold method
  split
  · exact .answered _
  · exact refuse_misses _

theorem items_misses : MissesNoKey value.items := by
  unfold items
  split <;> first | exact .answered _ | exact refuse_misses _

theorem length_misses : MissesNoKey value.length := by
  unfold length
  split <;> first | exact .answered _ | exact refuse_misses _

theorem hashable_misses : MissesNoKey value.hashable := by
  unfold hashable
  split
  · exact refuse_misses _
  · exact .answered _

theorem writable_misses : MissesNoKey value.writable := by
  unfold writable
  split
  · exact refuse_misses _
  · exact .answered _

theorem subject_misses : MissesNoKey value.subject := by
  unfold subject
  split <;> first | exact .answered _ | exact refuse_misses _

theorem wholePlace_misses (fault : OperandFault) : MissesNoKey (wholePlace fault place) := by
  unfold wholePlace
  split
  · exact .answered _
  · exact refuse_misses _

theorem pick_misses {α : Type} (fault : OperandFault) (items : List α) (place : Int) :
    MissesNoKey (pick fault items place) := by
  unfold pick
  dsimp only
  split
  · exact .answered _
  · exact refuse_misses _

theorem itemAt_list_misses (items : List Value) : MissesNoKey (itemAt (.list items) place) :=
  .bind (wholePlace_misses place _) fun _ _ => pick_misses _ _ _

theorem itemAt_text_misses (name : Name) : MissesNoKey (name.toValue.itemAt place) := by
  have letter : MissesNoKey (wholePlace (.textIndex place.faultName) place >>= fun n =>
      (pick .textOutOfRange name.label.toList n).map fun c => ofChars [c]) :=
    .bind (wholePlace_misses place _) fun _ _ => .map _ (pick_misses _ _ _)
  cases name <;> exact letter

end Containers

/-! ### Order -/

section Order
variable (a b : Value)

mutual

theorem less_misses (sign : String) : (a b : Value) → MissesNoKey (less sign a b)
  | .list a, .list b => by
      rw [less]
      exact itemsLess_misses sign a b
  | .tuple a, .tuple b => by
      rw [less]
      exact itemsLess_misses sign a b
  | a, b => by
      unfold less
      split
      · exact itemsLess_misses sign _ _
      · exact itemsLess_misses sign _ _
      · exact .answered _
      · split
        · exact .answered _
        · exact .answered _
        · exact refuse_misses _

theorem itemsLess_misses (sign : String) : (a b : List Value) → MissesNoKey (itemsLess sign a b)
  | [], [] => .answered _
  | [], _ :: _ => .answered _
  | _ :: _, [] => .answered _
  | a :: as, b :: bs => by
      rw [itemsLess]
      split
      · exact itemsLess_misses sign as bs
      · exact less_misses sign a b

end

theorem atMost_misses : MissesNoKey (atMost a b) := by
  unfold atMost
  split
  · exact .answered _
  · exact refuse_misses _

theorem atLeast_misses : MissesNoKey (atLeast a b) := by
  unfold atLeast
  split
  · exact .answered _
  · exact refuse_misses _

theorem above_misses : MissesNoKey (above a b) := by
  unfold above
  split
  · exact .answered _
  · exact refuse_misses _

theorem leadingRun_misses (falling : Bool) (taken items : List Value) :
    MissesNoKey (leadingRun falling taken items) := by
  induction items generalizing taken with
  | nil => exact .answered _
  | cons item rest ih =>
      unfold leadingRun
      split
      · exact ih _
      · refine .bind (less_misses _ _ _) fun below _ => ?_
        split
        · exact ih _
        · exact .answered _

theorem sortedPlace_misses (item : Value) (items : List Value) (fuel low high : Nat) :
    MissesNoKey (sortedPlace item items fuel low high) := by
  induction fuel generalizing low high with
  | zero => exact .answered _
  | succ fuel ih =>
      unfold sortedPlace
      split
      · refine .bind (less_misses _ _ _) fun below _ => ?_
        split
        · exact ih _ _
        · exact ih _ _
      · exact .answered _

theorem insertSorted_misses (sorted items : List Value) : MissesNoKey (insertSorted sorted items) := by
  induction items generalizing sorted with
  | nil => exact .answered _
  | cons item rest ih => exact .bind (sortedPlace_misses _ _ _ _ _) fun place _ => ih _

theorem sorted_misses (items : List Value) : MissesNoKey (sorted items) := by
  unfold sorted
  split
  · exact .bind (less_misses _ _ _) fun falling _ =>
      .bind (leadingRun_misses _ _ _) fun run _ => insertSorted_misses _ _
  · exact .answered _

end Order

/-! ### Arithmetic -/

section Arithmetic
variable (a b count : Value)

theorem floatOfInt_misses (n : Int) : MissesNoKey (floatOfInt n) := by
  unfold floatOfInt
  split
  · exact .answered _
  · exact refuse_misses _

theorem arithmetic_misses (sign : String) (whole : Int → Int → Int) (real : Float → Float → Float) :
    MissesNoKey (arithmetic sign whole real a b) := by
  unfold arithmetic
  split
  · exact .answered _
  · split
    · exact .map _ (floatOfInt_misses _)
    · exact refuse_misses _
  · split
    · exact .map _ (floatOfInt_misses _)
    · exact refuse_misses _
  · split
    · exact .answered _
    · exact refuse_misses _

theorem half_misses : MissesNoKey a.half := by
  unfold half
  split
  · exact .answered _
  · split
    · exact .answered _
    · exact refuse_misses _

theorem plus_misses : MissesNoKey (a.plus b) := by
  unfold plus
  split
  all_goals first | exact .answered _ | exact refuse_misses _ | skip
  split
  · exact .answered _
  · exact refuse_misses _
  · exact arithmetic_misses _ _ _ _ _

theorem repeatBy_misses {α : Type} (tooLong : OperandFault) (items : List α) :
    MissesNoKey (repeatBy tooLong items count) := by
  unfold repeatBy repeatItems
  split
  · split
    · exact refuse_misses _
    · split
      · exact .answered _
      · dsimp only
        split
        · exact refuse_misses _
        · exact .answered _
  · exact refuse_misses _

theorem times_misses : MissesNoKey (a.times count) := by
  unfold times
  split
  · exact .map _ (repeatBy_misses _ _ _)
  · exact .map _ (repeatBy_misses _ _ _)
  · exact .map _ (repeatBy_misses _ _ _)
  · split
    · exact .map _ (repeatBy_misses _ _ _)
    · exact arithmetic_misses _ _ _ _ _

end Arithmetic

/-! ### Parts -/

section Parts
variable (value mark start stop : Value) (script : Script)

theorem sliceBound_misses : MissesNoKey (sliceBound mark) := by
  unfold sliceBound
  split
  · exact .answered _
  · split
    · exact .answered _
    · exact refuse_misses _

theorem part_misses : MissesNoKey (value.part start stop) := by
  have bounds : MissesNoKey (part.bounds start stop) :=
    .bind (sliceBound_misses start) fun _ _ => .bind (sliceBound_misses stop) fun _ _ => .answered _
  unfold part
  split
  · exact .map _ bounds
  · exact .map _ bounds
  · exact refuse_misses _
  · split
    · exact .map _ bounds
    · exact refuse_misses _

theorem pieces_misses (size : Nat) : MissesNoKey (value.pieces size) := by
  unfold pieces
  split
  · exact .answered _
  · exact .answered _
  · split
    · exact .answered _
    · exact refuse_misses _
  · split
    · exact .answered _
    · exact refuse_misses _

theorem joinable_misses (place : Nat) : MissesNoKey (joinable script place value) := by
  unfold joinable
  split
  · split
    · exact .answered _
    · exact refuse_misses _
  · exact refuse_misses _

theorem joinableFrom_misses (place : Nat) (done : List (List Char)) (parts : List Value) :
    MissesNoKey (joinableFrom script place done parts) := by
  induction parts generalizing place done with
  | nil => exact .answered _
  | cons part rest ih =>
      unfold joinableFrom
      have joins := joinable_misses part script place
      split
      · exact ih _ _
      next failure failed => exact .failed (joins failure failed)

theorem joinParts_misses (glue : Value) (parts : List Value) : MissesNoKey (joinParts glue parts) :=
  .bind (method_misses glue _) fun _ _ => .bind (joinableFrom_misses _ _ _ _) fun _ _ => .answered _

theorem byteNeedle_misses (fault : OperandFault) : MissesNoKey (byteNeedle fault mark) := by
  unfold byteNeedle
  split
  · exact .answered _
  · split
    · refine .map _ ?_
      unfold byteChar
      split
      · exact .answered _
      · exact refuse_misses _
    · exact refuse_misses _

theorem needle_misses : MissesNoKey (needle script mark) := by
  unfold needle
  split
  · exact byteNeedle_misses _ _
  · split
    · exact .answered _
    · exact refuse_misses _

theorem member_misses : MissesNoKey (member script mark) := by
  unfold member
  split
  · exact byteNeedle_misses _ _
  · split
    · exact .answered _
    · exact refuse_misses _

theorem holds_misses : MissesNoKey (value.holds mark) := by
  unfold holds
  split
  · exact .answered _
  · exact .answered _
  · exact .bind (hashable_misses _) fun _ _ => .answered _
  · split
    · exact .map _ (member_misses _ _)
    · exact refuse_misses _

theorem inScript_misses (fault : OperandFault) : MissesNoKey (inScript script fault mark) := by
  unfold inScript
  split
  · split
    · exact .answered _
    · exact refuse_misses _
  · exact refuse_misses _

theorem anyAffix_misses (test : String) (has : List Char → Bool) (marks : List Value) :
    MissesNoKey (hasAffix.anyAffix test script has marks) := by
  induction marks with
  | nil => exact .answered _
  | cons mark rest ih =>
      refine .bind (inScript_misses _ _ _) fun chars _ => ?_
      split
      · exact .answered _
      · exact ih

theorem hasAffix_misses (test : String) (has : List Char → Bool) :
    MissesNoKey (hasAffix test script has mark) := by
  unfold hasAffix
  split
  · exact anyAffix_misses _ _ _ _
  · exact .map _ (inScript_misses _ _ _)

theorem replaceArgument_misses (place : Nat) : MissesNoKey (replaceArgument script place mark) := by
  unfold replaceArgument
  dsimp only
  split
  · exact inScript_misses _ _ _
  · exact inScript_misses _ _ _

theorem separatorOf_misses : MissesNoKey (separatorOf script mark) := by
  unfold separatorOf
  split
  · exact inScript_misses _ _ _
  · refine .bind (inScript_misses _ _ _) fun chars _ => ?_
    split
    · exact refuse_misses _
    · exact .answered _

end Parts

/-! ### Patterns -/

section Patterns
variable (value separator : Value) (p : Pattern)

theorem pattern_misses (error : PatternError) :
    Failure.failureClass (.pattern error) ≠ .kind .key := by
  cases fault : error.fault <;> simp [Failure.failureClass, fault, PatternFault.failureClass]

theorem toPattern_misses : MissesNoKey value.toPattern := by
  unfold toPattern
  split
  · exact .answered _
  · refine .bind (hashable_misses _) fun _ _ => ?_
    split
    · exact refuse_misses _
    next script chars _ =>
      cases Pattern.read (script == .bytes) {} chars with
      | ok p => exact .answered _
      -- A pattern that cannot be read fails with an error of patterns, in spite of the names in it.
      | error error => exact .failed (pattern_misses error)

theorem subjectOf_misses : MissesNoKey (value.subjectOf p) := by
  unfold subjectOf
  split
  · split
    · exact refuse_misses _
    · exact .answered _
  · split
    · exact .answered _
    · exact refuse_misses _
  · exact refuse_misses _

theorem splitAtHits_misses : MissesNoKey (value.splitAtHits p) :=
  .bind (subjectOf_misses value p) fun _ _ => .answered _

theorem splitBy_misses : MissesNoKey (value.splitBy separator) := by
  unfold splitBy
  split
  · exact items_misses value
  · exact items_misses value
  · exact splitAtHits_misses _ _
  · exact splitAtHits_misses _ _
  · exact .bind (method_misses _ _) fun _ _ => .bind (separatorOf_misses _ _) fun _ _ => .answered _

theorem wordsOf_misses : MissesNoKey value.wordsOf := by
  unfold wordsOf
  split
  · exact refuse_misses _
  · exact .map _ (method_misses _ _)

end Patterns

end Value

/-! ## Replacements -/

def Value.Idle (value : Value) : Prop := ∀ r written, value ≠ .routine r written

section Replacements
variable {p : Pattern} {script : Script}

theorem piece_misses {replacement : Replacement} (idle : ∀ r, replacement ≠ .function r) (hit : Hit) :
    MissesNoKey (replacement.piece script hit) := by
  cases replacement with
  | literal value => exact .answered _
  | function r => exact absurd rfl (idle r)
  | template origin parts =>
      refine .map _ ?_
      unfold expandIn
      dsimp only
      split
      · split
        · exact .answered _
        · exact refuse_misses _
      · exact .answered _

theorem piecesFrom_misses {replacement : Replacement} (idle : ∀ r, replacement ≠ .function r)
    (done : List Piece) (cuts : List Search.Cut) :
    MissesNoKey (piecesFrom script replacement done cuts) := by
  induction cuts generalizing done with
  | nil => exact .answered _
  | cons cut rest ih => exact .bind (piece_misses idle cut.hit) fun _ _ => ih _

theorem joinPiecesFrom_misses (place : Nat) (done : List (List Char)) (pieces : List Piece) :
    MissesNoKey (joinPiecesFrom script place done pieces) := by
  induction pieces generalizing place done with
  | nil => exact .answered _
  | cons piece rest ih =>
      cases piece with
      | chars text => exact ih _ _
      | stray type => exact refuse_misses _

theorem template_idle (parts : Template) (r : Routine) : parts.replacement script ≠ .function r := by
  unfold Template.replacement
  split <;> exact nofun

/-- A replacement that is no function is read as none. -/
theorem toReplacement_idle {value : Value} (idle : value.Idle) :
    MissesNoKey (value.toReplacement p) ∧
      ∀ replacement, value.toReplacement p = .ok replacement → ∀ r, replacement ≠ .function r := by
  unfold Value.toReplacement
  split
  next r written => exact absurd rfl (idle r written)
  next =>
    split
    next =>
      refine ⟨.bind (Value.hashable_misses _) fun _ _ => refuse_misses _, fun replacement read => ?_⟩
      obtain ⟨_, _, refused⟩ := bind_eq_ok.mp read
      cases refused
    next script chars _ =>
      split
      · refine ⟨.answered _, ?_⟩
        rintro _ ⟨⟩
        exact nofun
      · cases Template.read p (script == .bytes) chars with
        | ok parts =>
            refine ⟨.answered _, ?_⟩
            rintro _ ⟨⟩
            exact template_idle parts
        | error error =>
            cases error with
            | malformed error => exact ⟨.failed (Value.pattern_misses error), nofun⟩
            -- A group that is not there is an error of a place, which is not one of a key.
            | unknownName name => exact ⟨refuse_misses _, nofun⟩

theorem replaceBy_misses (cuts : List Char → List Search.Cut × List Char) {replacement : Value}
    (idle : replacement.Idle) (value : Value) : MissesNoKey (p.replaceBy cuts replacement value) := by
  obtain ⟨reads, given⟩ := toReplacement_idle (p := p) idle
  refine .bind reads fun read asked => .bind (Value.subjectOf_misses value p) fun text _ => ?_
  dsimp only
  refine .bind (.bind (piecesFrom_misses (given read asked) _ _) fun pieces _ => ?_) fun _ _ => .answered _
  exact joinPiecesFrom_misses _ _ _

end Replacements

end TextChain
