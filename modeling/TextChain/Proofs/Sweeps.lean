import TextChain.Proofs.PatternLanguages
import TextChain.Proofs.Replacements

/-!
Sweeping a text. A step takes the classes of characters out that it is asked for, one after the other, each by
a pattern that matches one character of the class or a whole run of them. What is left are the characters of
none of the classes, so it makes no difference in which order, or in how many steps, they are taken out.
-/

namespace TextChain

variable {chance : Edit.Chance}

/-! ## Searches that sweep -/

/-- A search that stops at the characters of a class, behind one or more of them. -/
structure Search.Sweeps (search : Search) (kind : CharClass) : Prop where
  missed : ∀ start : Cursor, (∀ c ∈ start.after.head?, kind.accepts c = false) → search.any start = none
  taken : ∀ (start : Cursor) (c : Char) (rest : List Char), start.after = c :: rest → kind.accepts c = true →
    ∃ more behind, rest = more ++ behind ∧ (∀ d ∈ more, kind.accepts d = true) ∧
      search.any start = some (start.past (c :: more) behind)

section Sweeping
variable {search : Search} {kind : CharClass}

/-- What was not taken so far, together with the characters of the rest that are not of the class, is what
lies between the hits in the end. -/
theorem sweeps_cutsFrom (sweeps : search.Sweeps kind) (cuts : List Search.Cut) (gap : List Char) (skip : Nat)
    (passed : skip ≠ 0 → gap = []) (before : List Char) (place : Nat) (text : List Char)
    (taking : ∀ c ∈ text.take skip, kind.accepts c = true) :
    ((search.cutsFrom cuts gap skip before place text).1.map (·.gap) ++
        [(search.cutsFrom cuts gap skip before place text).2]).flatten =
      (cuts.reverse.map (·.gap)).flatten ++ gap.reverse ++ text.filter (!kind.accepts ·) := by
  induction text generalizing cuts gap skip before place with
  | nil =>
      have nowhere := sweeps.missed { before, after := [], place } (by simp)
      simp [Search.cutsFrom, nowhere]
  | cons c rest ih =>
      cases skip with
      | succ n =>
          -- The characters of a hit that is passed over are all of the class.
          obtain rfl := passed (Nat.succ_ne_zero n)
          obtain ⟨here, later⟩ := List.forall_mem_cons.mp taking
          rw [Search.cutsFrom, ih cuts [] n (fun _ => rfl) _ _ later, List.filter_cons, here]
          rfl
      | zero =>
          cases swept : kind.accepts c with
          | false =>
              have missed := sweeps.missed { before, after := c :: rest, place } fun _ listed =>
                Option.some.inj listed ▸ swept
              rw [cutsFrom_missed missed, ih cuts (c :: gap) 0 (absurd rfl) _ _ (List.forall_mem_nil _),
                List.filter_cons, swept]
              simp
          | true =>
              -- The hit ends the gap; what it takes behind this character is passed over.
              obtain ⟨more, behind, rfl, inside, found⟩ :=
                sweeps.taken { before, after := c :: rest, place } c rest rfl swept
              have moved : place + (c :: more).length ≠ place := by simp
              have width : place + (c :: more).length - place - 1 = more.length := by simp
              rw [cutsFrom_hit found moved, Cursor.past, width,
                ih _ [] more.length (fun _ => rfl) _ _ (by simpa using inside), List.filter_cons, swept]
              simp

theorem sweeps_gaps (sweeps : search.Sweeps kind) (text : List Char) :
    ((search.cuts text).1.map (·.gap) ++ [(search.cuts text).2]).flatten = text.filter (!kind.accepts ·) :=
  sweeps_cutsFrom sweeps [] [] 0 (absurd rfl) [] 0 text (List.forall_mem_nil _)

end Sweeping

/-! ## Patterns that sweep -/

section Patterns
variable {kind lead : CharClass} {start : Cursor}

theorem step_attempt (kind : CharClass) (start : Cursor) :
    (Matcher.step kind).attempt (fun _ => true) start =
      match start.after with
      | [] => none
      | c :: rest => if kind.accepts c then some (start.past [c] rest) else none := by
  rw [Matcher.attempt, Matcher.run]
  cases start.after with
  | nil => rfl
  | cons c rest => cases inside : kind.accepts c <;> simp [inside, Attempt.answer, Cursor.past, Cursor.onto]

theorem stretch_attempt (kind : CharClass) (start : Cursor) :
    ∃ taken rest, Farthest kind none 0 start.after taken rest ∧
      (Matcher.stretch kind .greedy 1 none none).attempt (fun _ => true) start =
        if taken = [] then none else some (start.past taken rest) := by
  obtain ⟨taken, rest, farthest, reached⟩ := stride_farthest kind none start
  refine ⟨taken, rest, farthest, ?_⟩
  simp only [Matcher.attempt, Matcher.run, stretchRounds, reached]
  cases taken with
  | nil => rfl
  | cons c more => cases more <;> rfl

theorem search_sweeps {matcher : Matcher} (first : matcher.lead? = some kind)
    (whole : ∀ c, kind.accepts c = true → lead.accepts c = true)
    (taken : ∀ (start : Cursor) (c : Char) (rest : List Char), start.after = c :: rest →
      kind.accepts c = true → ∃ more behind, rest = more ++ behind ∧ (∀ d ∈ more, kind.accepts d = true) ∧
        matcher.attempt (fun _ => true) start = some (start.past (c :: more) behind)) :
    (matcher.search lead).Sweeps kind where
  missed start outside := by
    have unlike : start.meets (some kind) = false := by
      cases ahead : start.after with
      | nil => simp [Cursor.meets, ahead]
      | cons c rest => simpa [Cursor.meets, ahead] using outside c (by rw [ahead]; rfl)
    simp [Matcher.search, first, unlike]
  taken start c rest ahead inside := by
    obtain ⟨more, behind, split, accepted, found⟩ := taken start c rest ahead inside
    refine ⟨more, behind, split, accepted, ?_⟩
    simp [Matcher.search, first, Cursor.meets, ahead, inside, whole c inside, found]

/-- Whether a node stands for the characters of a class, one by one or run by run. -/
inductive Node.Sweeping (flags : Flags) : Node → CharClass → Prop
  | single (negated : Bool) (members : List Member) :
      Sweeping flags (.set negated members) (setClass flags negated members)
  | run (negated : Bool) (members : List Member) :
      Sweeping flags (.loop .greedy 1 none (.set negated members)) (setClass flags negated members)

theorem sweeping_sweeps {p : Pattern} (cased : p.flags.ignoreCase = false)
    (sweeping : p.node.Sweeping p.flags kind) : p.search.Sweeps kind := by
  have plain : { p.flags with ignoreCase := false } = p.flags := by rw [← cased]
  rw [Pattern.search]
  generalize p.node = node at sweeping ⊢
  cases sweeping with
  | single negated members =>
      refine search_sweeps rfl ?_ ?_
      · simp [Node.leadClass, Node.leadingSet?, cased, plain]
      · intro start c rest ahead inside
        refine ⟨[], rest, rfl, List.forall_mem_nil _, ?_⟩
        rw [Node.matcher, step_attempt, ahead]
        exact if_pos inside
  | run negated members =>
      refine search_sweeps rfl (fun _ _ => rfl) ?_
      intro start c rest ahead inside
      obtain ⟨taken, behind, farthest, found⟩ := stretch_attempt (setClass p.flags negated members) start
      -- The run could take the first character alone, so it takes one at least.
      have reaches := farthest.longest [c] rest ahead (by simpa using inside) (Within.unbounded _)
      cases taken with
      | nil => exact absurd reaches (Nat.not_succ_le_zero 0)
      | cons d more =>
          obtain ⟨rfl, split⟩ := List.cons.inj (ahead.symm.trans farthest.whole)
          exact ⟨more, behind, split, (List.forall_mem_cons.mp farthest.inside).2, found⟩

theorem removeAll_swept {p : Pattern} (textual : p.binary = false) (cased : p.flags.ignoreCase = false)
    (sweeping : p.node.Sweeping p.flags kind) (subject : Name) :
    p.replaceAll (.text "") subject.toValue =
      .ok (.ofChars (subject.label.toList.filter (!kind.accepts ·))) := by
  have plain : '\\' ∉ (Name.text "").label.toList := by simp [Name.label]
  have removed := replaceBy_texts textual plain p.search.cuts subject
  rwa [show (Name.text "").label.toList = [] from rfl, intercalate_empty,
    sweeps_gaps (sweeping_sweeps cased sweeping)] at removed

end Patterns

/-! ## Litter -/

/-- The classes of characters that a step can be asked to take out. -/
inductive Litter where
  | blanks
  | figures
  | specials
  deriving DecidableEq, Repr

namespace Litter

def all : List Litter := [.blanks, .figures, .specials]

/-- The setting that asks for a class to be taken out. -/
def setting : Litter → String
  | .blanks => "remove_spaces"
  | .figures => "remove_digits"
  | .specials => "remove_special"

/-- White space of any script, the digits of ASCII, and what is neither a letter or digit of ASCII, nor the
low line, nor white space. -/
def holds : Litter → Char → Bool
  | .blanks, c => isBlank c
  | .figures, c => Ascii.isDigit c
  | .specials, c => !(Ascii.isLetter c || Ascii.isDigit c || c == '_' || isBlank c)

def asked (settings : Settings) : List Litter :=
  all.filter fun litter => (settings.either litter.setting (.bool false)).truthy

def swept (litters : List Litter) (subject : Name) : Name :=
  if litters = [] then subject
  else .text (.ofList (subject.label.toList.filter fun c => !litters.any (·.holds c)))

def source : Litter → String
  | .blanks => "\\s+"
  | .figures => "[0-9]+"
  | .specials => "[^A-Za-z0-9_\\s]"

def node : Litter → Node
  | .blanks => .loop .greedy 1 none (.set false [.category .blank false])
  | .figures => .loop .greedy 1 none (.set false [.between '0' '9'])
  | .specials => .set true [.between 'A' 'Z', .between 'a' 'z', .between '0' '9', .point '_'.toNat,
      .category .blank false]

def pattern (litter : Litter) : Pattern where
  source := litter.source.toList
  flags := {}
  node := litter.node
  groups := 0
  names := []

theorem pattern_read (litter : Litter) :
    Pattern.ofText? {} litter.source.toList = .ok litter.pattern := by
  cases litter <;> decide +kernel

theorem blank_accepts (c : Char) : ((Member.category .blank false).charClass {}).accepts c = isBlank c :=
  Bool.bne_false (isBlank c)

theorem blankSet_accepts (c : Char) :
    (setClass {} false [.category .blank false]).accepts c = isBlank c := by
  rw [setClass_accepts rfl, List.any_cons, blank_accepts]
  exact Bool.or_false (isBlank c)

theorem pattern_sweeping (litter : Litter) :
    ∃ kind : CharClass, litter.pattern.node.Sweeping {} kind ∧ ∀ c, kind.accepts c = litter.holds c := by
  cases litter with
  | blanks => exact ⟨_, .run _ _, blankSet_accepts⟩
  | figures =>
      refine ⟨_, .run _ _, fun c => ?_⟩
      rw [setClass_accepts rfl, List.any_cons, between_accepts rfl]
      exact Bool.or_false (Ascii.isDigit c)
  | specials =>
      refine ⟨_, .single _ _, fun c => ?_⟩
      rw [negatedSet_accepts, setClass_accepts rfl]
      simp only [List.any_cons, List.any_nil, between_accepts, point_accepts, blank_accepts, holds,
        Ascii.isLetter, Ascii.isUpper, Ascii.isLower, Ascii.isDigit, Bool.or_assoc, Bool.or_false]

theorem swept_single (litter : Litter) (subject : Name) :
    swept [litter] subject = .text (.ofList (subject.label.toList.filter (!litter.holds ·))) := by
  rw [swept, if_neg (List.cons_ne_nil _ _)]
  simp only [List.any_cons, List.any_nil, Bool.or_false]

theorem removal_answer (litter : Litter) (subject : Name) :
    litter.pattern.replaceAll (.text "") subject.toValue = .ok (swept [litter] subject).toValue := by
  obtain ⟨kind, sweeping, same⟩ := litter.pattern_sweeping
  rw [removeAll_swept rfl rfl sweeping, swept_single]
  simp only [same]
  rfl

/-! ## Sweeping in several steps -/

section Steps
variable {first second both : List Litter}

theorem swept_label (litters : List Litter) (subject : Name) :
    (swept litters subject).label.toList =
      subject.label.toList.filter fun c => !litters.any (·.holds c) := by
  unfold swept
  split
  next nothing => simp [nothing]
  next => rw [Name.label, String.toList_ofList]

theorem swept_congr (alike : ∀ litter, litter ∈ first ↔ litter ∈ second) (subject : Name) :
    swept first subject = swept second subject := by
  have empty : first = [] ↔ second = [] := by simp only [List.eq_nil_iff_forall_not_mem, alike]
  have same (c : Char) : first.any (·.holds c) = second.any (·.holds c) := by
    rw [Bool.eq_iff_iff]
    simp only [List.any_eq_true, alike]
  simp only [swept, empty, same]

theorem swept_swept (united : ∀ litter, litter ∈ both ↔ litter ∈ first ∨ litter ∈ second) (subject : Name) :
    swept second (swept first subject) = swept both subject := by
  have joined (litter : Litter) : litter ∈ both ↔ litter ∈ first ++ second :=
    (united litter).trans List.mem_append.symm
  rw [swept_congr joined]
  by_cases none : first = []
  · subst none
    rfl
  by_cases further : second = []
  · subst further
    rw [List.append_nil]
    rfl
  · rw [swept, if_neg further, swept_label, swept, if_neg (List.append_ne_nil_of_left_ne_nil none _),
      List.filter_filter]
    simp only [List.any_append, Bool.not_or, Bool.and_comm]

end Steps

/-! ## Steps -/

def removal (litter : Litter) : String × Settings :=
  ("remove_all", [("pattern", .pattern litter.pattern)])

theorem removal_granted (litter : Litter) : chance.Grants litter.removal Edit.removedAll :=
  ⟨rfl, rfl⟩

theorem removals_answer (litters : List Litter) (subject : Name) :
    chance.catalogue.chained (litters.map removal) subject.toValue = .ok (swept litters subject).toValue := by
  have granted : List.Forall₂ chance.Grants (litters.map removal)
      (litters.map fun _ => Edit.removedAll) := by
    rw [List.forall₂_map_left_iff, List.forall₂_map_right_iff, List.forall₂_same]
    exact fun litter _ => litter.removal_granted
  rw [chained_answer granted, List.zip_map', List.foldlM_map]
  -- The induction is on the classes for every subject, and what is granted for all of them stays behind.
  clear granted
  induction litters generalizing subject with
  | nil => rfl
  | cons litter rest ih =>
      have here : Edit.removedAll.work (.text litter.removal.1) litter.removal.2 subject.toValue =
          .ok (swept [litter] subject).toValue := litter.removal_answer subject
      have together (other : Litter) : other ∈ litter :: rest ↔ other ∈ [litter] ∨ other ∈ rest := by
        rw [List.mem_cons, List.mem_singleton]
      rw [List.foldlM_cons, here, ok_bind, ih, swept_swept together]

theorem isSpecial_holds (c : Char) : Editing.isSpecial c = Litter.specials.holds c := by
  simp [Editing.isSpecial, Ascii.isWord, Ascii.isLetterOrDigit, holds]

theorem filter_asked (asked : Bool) (kind : Char → Bool) (text : List Char) :
    (if asked then text.filter (!kind ·) else text) = text.filter fun c => !(asked && kind c) := by
  cases asked <;> simp

theorem sanitize_eq (asks : Litter → Bool) (text : List Char) :
    Editing.sanitize (asks .blanks) (asks .figures) (asks .specials) text =
      text.filter fun c => !(all.filter asks).any (·.holds c) := by
  simp only [Editing.sanitize, filter_asked]
  rw [List.filter_filter, List.filter_filter]
  refine List.filter_congr fun c _ => ?_
  simp only [all, List.any_filter, List.any_cons, List.any_nil, Bool.or_false, Bool.not_or, isSpecial_holds]
  rw [Bool.and_comm]
  exact congrArg (!(asks .blanks && isBlank c) && ·) (Bool.and_comm _ _)

theorem sanitize_answer (settings : Settings) (subject : Name) :
    chance.catalogue.answer .transformation "sanitize" settings subject.toValue =
      .ok (swept (asked settings) subject).toValue := by
  let asks (litter : Litter) : Bool := (settings.either litter.setting (.bool false)).truthy
  have nothing : (!asks .blanks && !asks .figures && !asks .specials) = true ↔ asked settings = [] := by
    simp [asked, all, asks, and_assoc]
  refine answer_made Edit.sanitized rfl rfl ?_
  rw [swept]
  by_cases none : asked settings = []
  · rw [if_pos none]
    exact if_pos (nothing.mpr none)
  · rw [if_neg none, show asked settings = all.filter asks from rfl, ← sanitize_eq]
    have swept : (subject.toValue.subject >>= fun text =>
        .ok (.ofChars (Editing.sanitize (asks .blanks) (asks .figures) (asks .specials) text))) =
        Except.ok (ε := Failure) (Value.ofChars (Editing.sanitize (asks .blanks) (asks .figures)
          (asks .specials) subject.label.toList)) := by
      rw [subject_name]
      rfl
    exact (if_neg (none ∘ nothing.mp)).trans swept

end Litter

open Litter

/-- A text that is sanitized is left with its characters of no class that the settings ask for, in their
order. If settings ask for the classes of two others, then one step with them comes to the same as a step
with each of the others, in either order, as the same step again, and as removing the hits of the patterns
of these classes one after the other. -/
theorem sweeps_unite (chance : Edit.Chance) {first second both : Settings}
    (united : ∀ litter, litter ∈ asked both ↔ litter ∈ asked first ∨ litter ∈ asked second) (subject : Name) :
    ∃ left : Name,
      chance.catalogue.answer .transformation "sanitize" both subject.toValue = .ok left.toValue ∧
      left.label.toList = subject.label.toList.filter (fun c => !(asked both).any (·.holds c)) ∧
      chance.catalogue.chained [("sanitize", first), ("sanitize", second)] subject.toValue =
        .ok left.toValue ∧
      chance.catalogue.chained [("sanitize", second), ("sanitize", first)] subject.toValue =
        .ok left.toValue ∧
      chance.catalogue.chained [("sanitize", both), ("sanitize", both)] subject.toValue = .ok left.toValue ∧
      (∀ litter : Litter, Pattern.ofText? {} litter.source.toList = .ok litter.pattern) ∧
      chance.catalogue.chained ((asked both).map removal) subject.toValue = .ok left.toValue := by
  have granted (settings : Settings) : chance.Grants ("sanitize", settings) Edit.sanitized :=
    ⟨rfl, rfl⟩
  have inTurn (former latter : Settings)
      (together : ∀ litter, litter ∈ asked both ↔ litter ∈ asked former ∨ litter ∈ asked latter) :
      chance.catalogue.chained [("sanitize", former), ("sanitize", latter)] subject.toValue =
        .ok (swept (asked both) subject).toValue := by
    rw [chained_pair (granted former) (granted latter) subject _ (sanitize_answer former subject),
      sanitize_answer, swept_swept together]
  exact ⟨swept (asked both) subject, sanitize_answer both subject, swept_label _ subject,
    inTurn first second united, inTurn second first fun litter => (united litter).trans or_comm,
    inTurn both both fun litter => (or_self_iff).symm, pattern_read, removals_answer _ subject⟩

theorem blanks_and_specials_unite :
    (∀ litter, litter ∈ asked [("remove_special", .int 1), ("remove_spaces", .bool true)] ↔
      litter ∈ asked [("remove_spaces", .text "yes")] ∨
        litter ∈ asked [("remove_digits", .nothing), ("remove_special", .bool true)]) ∧
      Catalogue.builtIn.chained [("sanitize", [("remove_spaces", .text "yes")]),
          ("sanitize", [("remove_digits", .nothing), ("remove_special", .bool true)])] (.text "é_1 - 2²") =
        .ok (.text "_12") := by
  have united : ∀ litter, litter ∈ asked [("remove_special", .int 1), ("remove_spaces", .bool true)] ↔
      litter ∈ asked [("remove_spaces", .text "yes")] ∨
        litter ∈ asked [("remove_digits", .nothing), ("remove_special", .bool true)] := by
    intro litter
    cases litter <;> decide
  obtain ⟨left, answered, _, inTurn, _⟩ := sweeps_unite .standing united (.text "é_1 - 2²")
  have computed : Catalogue.builtIn.answer .transformation "sanitize"
      [("remove_special", .int 1), ("remove_spaces", .bool true)] (.text "é_1 - 2²") =
      .ok (.text "_12") := rfl
  exact ⟨united, inTurn.trans (answered.symm.trans computed)⟩

end TextChain
