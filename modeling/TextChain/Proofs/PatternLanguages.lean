import TextChain.Proofs.LiteralPatterns
import TextChain.Proofs.MatchingLoops

/-!
What patterns match, apart from how they are matched. A node without anchors, references and looks behind
has a language that is built up along the node. Its matcher succeeds just if the language has a text behind
which what follows succeeds, so a pattern fits a whole text just if the text is in its language.
-/

namespace TextChain

/-! ## Languages of nodes -/

namespace Node

/-- What a node may take. Nodes whose matches depend on more than what comes after them are left out. -/
def language (flags : Flags) : Node → Language
  | .empty => fun text _ => text = []
  | .letter code => OneOf (flags.letterClass code)
  | .notLetter code => OneOf (flags.letterClass code).complement
  | .any => OneOf flags.anyClass
  | .set negated members => OneOf (setClass flags negated members)
  | .sequence first second => fun text rest =>
      ∃ front back, text = front ++ back ∧ first.language flags front (back ++ rest) ∧
        second.language flags back rest
  | .choice first second => fun text rest =>
      first.language flags text rest ∨ second.language flags text rest
  | .group _ body => body.language flags
  | .scoped scope body => body.language (flags.within scope)
  | .ahead negated body => fun text rest =>
      text = [] ∧ (negated = false ↔ ∃ front back, rest = front ++ back ∧ body.language flags front back)
  | .loop _ least most body => Looped (body.language flags) least most
  | _ => fun _ _ => False

/-- Whether a node has a language: what it takes depends on nothing but what comes after it. Loops have to
be greedy, and their bounds in order. -/
def isForward : Node → Bool
  | .empty | .letter _ | .notLetter _ | .any | .set _ _ => true
  | .sequence first second | .choice first second => first.isForward && second.isForward
  | .group _ body | .scoped _ body | .ahead _ body => body.isForward
  | .loop appetite least most body => appetite == .greedy && most.all (least ≤ ·) && body.isForward
  | _ => false

end Node

/-! ### Classes -/

def Member.between (low high : Char) : Member := .range low.toNat high.toNat

section Classes
variable {flags : Flags}

theorem between_accepts (cased : flags.ignoreCase = false) (low high c : Char) :
    ((Member.between low high).charClass flags).accepts c = (decide (low ≤ c) && decide (c ≤ high)) := by
  rw [Member.between, Member.charClass, cased]
  rfl

theorem point_accepts (cased : flags.ignoreCase = false) (d c : Char) :
    ((Member.point d.toNat).charClass flags).accepts c = (c == d) := by
  rw [Member.charClass, cased, Bool.eq_iff_iff]
  simp [Char.toNat_inj]

theorem setClass_accepts (cased : flags.ignoreCase = false) (members : List Member) (c : Char) :
    (setClass flags false members).accepts c =
      members.any fun member => (member.charClass flags).accepts c := by
  rw [setClass, cased]
  simp [List.any_map, Function.comp_def]

theorem negatedSet_accepts (members : List Member) (c : Char) :
    (setClass flags true members).accepts c = !(setClass flags false members).accepts c := by
  unfold setClass
  split <;> simp

end Classes

/-! ### Parts of patterns -/

section Parts
variable {flags : Flags} {text rest : List Char}

theorem concat_single (node : Node) : Node.concat [node] = node := rfl

theorem language_concat {node : Node} {nodes : List Node} :
    (Node.concat (node :: nodes)).language flags text rest ↔
      ∃ front back, text = front ++ back ∧ node.language flags front (back ++ rest) ∧
        (Node.concat nodes).language flags back rest := by
  cases nodes with
  | nil =>
      constructor
      · intro taken
        exact ⟨text, [], (List.append_nil text).symm, taken, rfl⟩
      · rintro ⟨front, _, rfl, taken, rfl⟩
        rwa [List.append_nil]
  | cons other nodes => exact Iff.rfl

theorem language_letter {c : Char} : (Node.letter c.toNat).language {} text rest ↔ text = [c] := by
  constructor
  · rintro ⟨d, rfl, same⟩
    rw [letterClass_accepts, beq_iff_eq] at same
    rw [same]
  · rintro rfl
    exact ⟨c, rfl, by rw [letterClass_accepts, beq_self_eq_true]⟩

theorem language_choice {first second : Node} :
    (Node.choice first second).language flags text rest ↔
      first.language flags text rest ∨ second.language flags text rest := Iff.rfl

theorem language_word {word : List Char} {nodes : List Node} :
    (Node.concat (letterNodes word ++ nodes)).language {} text rest ↔
      ∃ back, text = word ++ back ∧ (Node.concat nodes).language {} back rest := by
  induction word generalizing text with
  | nil => simp [letterNodes]
  | cons c word ih =>
      rw [letterNodes, List.map_cons, List.cons_append, language_concat]
      constructor
      · rintro ⟨_, tail, rfl, ⟨d, rfl, same⟩, later⟩
        rw [letterClass_accepts, beq_iff_eq] at same
        obtain ⟨back, rfl, taken⟩ := ih.mp later
        exact ⟨back, by rw [same]; rfl, taken⟩
      · rintro ⟨back, rfl, taken⟩
        refine ⟨[c], word ++ back, rfl, ⟨c, rfl, ?_⟩, ih.mpr ⟨back, rfl, taken⟩⟩
        rw [letterClass_accepts, beq_self_eq_true]

theorem language_ending {node : Node} {word : List Char} :
    (Node.concat (node :: letterNodes word)).language {} text rest ↔
      ∃ front, text = front ++ word ∧ node.language {} front (word ++ rest) := by
  rw [← List.append_nil (letterNodes word), language_concat]
  simp only [language_word]
  constructor
  · rintro ⟨front, _, rfl, taken, _, rfl, rfl⟩
    rw [List.append_nil] at taken ⊢
    exact ⟨front, rfl, taken⟩
  · rintro ⟨front, rfl, taken⟩
    exact ⟨front, word, rfl, taken, [], (List.append_nil word).symm, rfl⟩

theorem looped_set {negated : Bool} {members : List Member} {kind : Char → Bool}
    (same : ∀ c, (setClass {} negated members).accepts c = kind c) {least : Nat} :
    (Node.loop .greedy least none (.set negated members)).language {} text rest ↔
      least ≤ text.length ∧ ∀ c ∈ text, kind c = true := by
  rw [Node.language, Node.language, looped_one]
  simp only [same]
  exact and_congr_right fun _ => and_iff_right (.unbounded _)

theorem looped_any (closed : flags.dotAll = false) {least : Nat} :
    (Node.loop .greedy least none .any).language flags text rest ↔ least ≤ text.length ∧ '\n' ∉ text := by
  have inLine (c : Char) : flags.anyClass.accepts c = true ↔ c ≠ '\n' := by
    rw [Flags.anyClass, closed]
    exact bne_iff_ne
  rw [Node.language, Node.language, looped_one]
  simp only [inLine]
  constructor
  · rintro ⟨enough, _, line⟩
    exact ⟨enough, fun feed => line '\n' feed rfl⟩
  · rintro ⟨enough, line⟩
    refine ⟨enough, .unbounded _, ?_⟩
    rintro c within rfl
    exact line within

theorem language_ahead {body : Node} {nodes : List Node} :
    (Node.concat (.ahead false body :: nodes)).language flags text rest ↔
      (∃ front back, text ++ rest = front ++ back ∧ body.language flags front back) ∧
        (Node.concat nodes).language flags text rest := by
  rw [language_concat]
  constructor
  · rintro ⟨_, _, rfl, ⟨rfl, found⟩, taken⟩
    exact ⟨found.mp rfl, taken⟩
  · rintro ⟨found, taken⟩
    exact ⟨[], text, rfl, ⟨rfl, iff_of_true rfl found⟩, taken⟩

end Parts

/-! ## Matchers -/

section Matchers
variable {next : Next} {goal : Goal} {flags : Flags}

theorem language_step {node : Node} {kind : CharClass} {lead : Option CharClass}
    (single : node.matcher flags lead = .step kind) : node.language flags = OneOf kind := by
  induction node generalizing flags with
  | letter | notLetter | any | set => cases single; rfl
  | «scoped» scope body ih => exact ih single
  | loop appetite least most body ih =>
      rw [Node.matcher] at single
      unfold Matcher.repeated at single
      split at single <;> cases single
  | _ => cases single

theorem forward_untested {node : Node} {lead : Option CharClass} (forward : node.isForward = true)
    (holds : Cursor → Bool) : node.matcher flags lead ≠ .test holds := by
  induction node generalizing flags with
  | anchor => cases forward
  | «scoped» scope body ih => exact ih forward
  | loop appetite least most body ih =>
      rw [Node.matcher]
      unfold Matcher.repeated
      split <;> exact nofun
  | _ => exact nofun

theorem lead_sequence {first second : Matcher} (untested : ∀ holds, first ≠ .test holds) :
    (Matcher.sequence first second).lead? = first.lead? := by
  cases first with
  | test holds => exact absurd rfl (untested holds)
  | _ => rfl

theorem lead_repeated (appetite : Appetite) (least : Nat) (most : Option Nat) (lead : Option CharClass)
    (round : Matcher) :
    (Matcher.repeated appetite least most lead round).lead? =
      if 0 < least then round.lead? else none := by
  cases round <;> rfl

theorem one_opens {kind : CharClass} {text rest : List Char} (one : OneOf kind text rest) :
    OpensWith (some kind) (text ++ rest) := by
  obtain ⟨c, rfl, accepted⟩ := one
  rintro _ ⟨⟩
  exact ⟨c, rest, rfl, accepted⟩

/-- Where it is known which character a matcher has to begin with, the texts of the language do. -/
theorem language_lead {node : Node} {lead : Option CharClass} (forward : node.isForward = true)
    {text rest : List Char} (taken : node.language flags text rest) :
    OpensWith (node.matcher flags lead).lead? (text ++ rest) := by
  induction node generalizing flags lead text rest with
  | letter | notLetter | any | set => exact one_opens taken
  | sequence first second ihFirst ihSecond =>
      rw [Node.isForward, Bool.and_eq_true] at forward
      obtain ⟨front, back, rfl, begun, _⟩ := taken
      rw [Node.matcher, lead_sequence (forward_untested forward.1), List.append_assoc]
      exact ihFirst forward.1 begun
  | group index body ih => exact ih forward taken
  | «scoped» scope body ih => exact ih forward taken
  | loop appetite least most body ih =>
      rw [Node.isForward, Bool.and_eq_true] at forward
      obtain ⟨count, enough, _, repeated⟩ := taken
      rw [Node.matcher, lead_repeated]
      by_cases owed : 0 < least
      · rw [if_pos owed]
        cases repeated with
        | none => exact absurd enough (Nat.not_le_of_lt owed)
        | more first later =>
            rw [List.append_assoc]
            exact ih forward.2 first
      · rw [if_neg owed]
        exact .unknown _
  | _ => exact .unknown _

theorem step_settles {kind : CharClass} (settles : Settles next goal) :
    Settles ((Matcher.step kind).run next) (Through (OneOf kind) goal) := by
  intro cursor fallback
  rw [Matcher.run]
  cases ahead : cursor.after with
  | nil =>
      have never : ¬ Through (OneOf kind) goal cursor.place [] := by
        rintro ⟨_, rest, whole, ⟨c, rfl, _⟩, _⟩
        cases whole
      simp [never, Attempt.answer]
  | cons c rest =>
      have here : Through (OneOf kind) goal cursor.place (c :: rest) ↔
          kind.accepts c = true ∧ goal (cursor.place + 1) rest := by
        constructor
        · rintro ⟨_, _, whole, ⟨d, rfl, accepted⟩, met⟩
          cases whole
          exact ⟨accepted, met⟩
        · rintro ⟨accepted, met⟩
          exact ⟨[c], rest, rfl, ⟨c, rfl, accepted⟩, met⟩
      rw [here]
      cases accepted : kind.accepts c with
      | true => simpa [accepted, Cursor.onto] using settles (cursor.onto c rest) fallback
      | false => simp [accepted, Attempt.answer]

theorem first_isSome {run : Run} {language : Language} (tries : Tries run language) (cursor : Cursor) :
    (Run.first run cursor).isSome = true ↔
      ∃ front back, cursor.after = front ++ back ∧ language front back := by
  have anywhere : Settles (fun stop _ => .over (some stop)) fun _ _ => True := by
    intro stop fallback
    simp [Attempt.answer]
  have found := tries _ _ anywhere cursor fun _ => .over none
  rw [Run.first]
  simpa [Through, Attempt.answer] using found

theorem through_sequence {first second : Node} :
    Through ((Node.sequence first second).language flags) goal =
      Through (first.language flags) (Through (second.language flags) goal) := by
  funext place after
  apply propext
  constructor
  · rintro ⟨_, rest, rfl, ⟨front, back, rfl, begun, ended⟩, met⟩
    refine ⟨front, back ++ rest, List.append_assoc _ _ _, begun, back, rest, rfl, ended, ?_⟩
    rwa [Nat.add_assoc, ← List.length_append]
  · rintro ⟨front, _, rfl, begun, back, rest, rfl, ended, met⟩
    refine ⟨front ++ back, rest, (List.append_assoc _ _ _).symm, ⟨front, back, rfl, begun, ended⟩, ?_⟩
    rwa [List.length_append, ← Nat.add_assoc]

theorem through_choice {first second : Node} {place : Nat} {after : List Char} :
    Through ((Node.choice first second).language flags) goal place after ↔
      Through (first.language flags) goal place after ∨
        Through (second.language flags) goal place after := by
  constructor
  · rintro ⟨text, rest, whole, taken | taken, met⟩
    · exact Or.inl ⟨text, rest, whole, taken, met⟩
    · exact Or.inr ⟨text, rest, whole, taken, met⟩
  · rintro (⟨text, rest, whole, taken, met⟩ | ⟨text, rest, whole, taken, met⟩)
    · exact ⟨text, rest, whole, Or.inl taken, met⟩
    · exact ⟨text, rest, whole, Or.inr taken, met⟩

theorem through_ahead {negated : Bool} {body : Node} {place : Nat} {after : List Char} :
    Through ((Node.ahead negated body).language flags) goal place after ↔
      (negated = false ↔ ∃ front back, after = front ++ back ∧ body.language flags front back) ∧
        goal place after := by
  constructor
  · rintro ⟨_, rest, rfl, ⟨rfl, found⟩, met⟩
    exact ⟨found, met⟩
  · rintro ⟨found, met⟩
    exact ⟨[], after, rfl, ⟨rfl, found⟩, met⟩

theorem leave_place (cursor : Cursor) (index : Nat) :
    (cursor.leave index).place = cursor.place ∧ (cursor.leave index).after = cursor.after := by
  unfold Cursor.leave
  split <;> exact ⟨rfl, rfl⟩

/-- The matcher of a node tries just the texts of its language. -/
theorem matcher_settles {node : Node} {lead : Option CharClass} (forward : node.isForward = true)
    (settles : Settles next goal) (led : ∀ place rest, goal place rest → OpensWith lead rest) :
    Settles ((node.matcher flags lead).run next) (Through (node.language flags) goal) := by
  induction node generalizing flags lead next goal with
  | empty =>
      have here : Through (Node.empty.language flags) goal = goal := by
        funext place after
        simp [Through, Node.language]
      rw [here]
      exact settles
  | letter | notLetter | any | set => exact step_settles settles
  | sequence first second ihFirst ihSecond =>
      rw [Node.isForward, Bool.and_eq_true] at forward
      rw [through_sequence]
      have later : Settles ((second.matcher flags lead).run next) (Through (second.language flags) goal) :=
        ihSecond forward.2 settles led
      -- What the second node begins with is known when the first one is matched.
      refine ihFirst forward.1 later ?_
      rintro place _ ⟨text, rest, rfl, taken, _⟩
      exact language_lead forward.2 taken
  | choice first second ihFirst ihSecond =>
      rw [Node.isForward, Bool.and_eq_true] at forward
      intro cursor fallback
      rw [Node.matcher, Matcher.run, ihFirst forward.1 settles led, ihSecond forward.2 settles led,
        through_choice, or_assoc]
  | group index body ih =>
      have leaving : Settles (fun stop fallback => next (stop.leave index) fallback) goal := by
        intro stop fallback
        rw [settles, (leave_place stop index).1, (leave_place stop index).2]
      intro cursor fallback
      exact ih forward leaving led (cursor.enter index) fallback
  | «scoped» scope body ih => exact ih forward settles led
  | ahead negated body ih =>
      have tries : Tries (body.matcher flags none).run (body.language flags) :=
        fun _ _ settles => ih forward settles fun _ _ _ => .unknown _
      intro cursor fallback
      have found := first_isSome tries cursor
      rw [Node.matcher, Matcher.run, through_ahead, ← found]
      cases Run.first (body.matcher flags none).run cursor with
      | none => cases negated <;> simp [settles cursor fallback, Attempt.answer]
      | some stop =>
          have same := settles { cursor with extents := stop.extents } fallback
          cases negated <;> simp [same, Attempt.answer]
  | loop appetite least most body ih =>
      simp only [Node.isForward, Bool.and_eq_true, beq_iff_eq] at forward
      obtain ⟨⟨rfl, ordered⟩, forward⟩ := forward
      have bounds : ∀ bound ∈ most, least ≤ bound := by
        rintro bound given
        simpa [Option.mem_def.mp given] using ordered
      have tries : Tries (body.matcher flags none).run (body.language flags) :=
        fun _ _ settles => ih forward settles fun _ _ _ => .unknown _
      rw [Node.matcher, Node.language]
      unfold Matcher.repeated
      split
      next kind single =>
        rw [language_step single]
        exact stretchRounds_settles settles led kind least most
      next => exact loopRounds_tries tries bounds _ _ settles
  | _ => cases forward

end Matchers

/-! ## Whole texts -/

namespace Pattern

def fits (pattern : Pattern) (text : List Char) : Bool :=
  ((pattern.node.matcher pattern.flags none).attempt (fun stop => stop.after.isEmpty)
    { after := text }).isSome

/-- A pattern fits the texts of its language. -/
theorem fits_iff {pattern : Pattern} (forward : pattern.node.isForward = true) (text : List Char) :
    pattern.fits text = true ↔ pattern.node.language pattern.flags text [] := by
  have stopping : Settles
      (fun stop fallback => if stop.after.isEmpty then .over (some stop) else .further fallback)
      fun _ rest => rest = [] := by
    intro stop fallback
    cases ahead : stop.after with
    | nil => simp [ahead, Attempt.answer]
    | cons c rest => simp [ahead, Attempt.answer]
  have tries : Settles ((pattern.node.matcher pattern.flags none).run _) _ :=
    matcher_settles forward stopping fun _ _ _ => .unknown _
  have found := tries { after := text } fun _ => .over none
  rw [fits, Matcher.attempt, found]
  constructor
  · rintro (⟨_, _, whole, taken, rfl⟩ | never)
    · rw [List.append_nil] at whole
      rwa [show text = _ from whole]
    · cases never
  · intro taken
    exact Or.inl ⟨text, [], (List.append_nil text).symm, taken, rfl⟩

end Pattern

end TextChain
