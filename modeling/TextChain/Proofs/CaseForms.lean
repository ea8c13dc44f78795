import Mathlib.Data.List.Chain
import TextChain.Editing
import TextChain.Proofs.LetterForms

/-!
Names in snake case and in camel case. Both steps read every character with the one before it, and no mapping
of letters leads to a separator. So what the one makes is parted by single low lines and small, what the other
makes has no separators, neither changes what it has made, and both read every run of separators alike.
-/

namespace TextChain

namespace Editing

/-! ## Separators -/

def separatorSpans : List Span :=
  [⟨45, 45⟩, ⟨95, 95⟩, ⟨9, 13⟩, ⟨28, 32⟩, ⟨133, 133⟩, ⟨160, 160⟩, ⟨5760, 5760⟩, ⟨8192, 8202⟩,
    ⟨8232, 8233⟩, ⟨8239, 8239⟩, ⟨8287, 8287⟩, ⟨12288, 12288⟩]

theorem isSeparator_false {c : Char} :
    isSeparator c = false ↔ isBlank c = false ∧ c ≠ '-' ∧ c ≠ '_' := by
  simp [isSeparator, and_assoc]

theorem outside_separators {c : Char} (outside : Outside separatorSpans c.toNat) : isSeparator c = false := by
  have unlike {mark : Char} (listed : ⟨mark.toNat, mark.toNat⟩ ∈ separatorSpans) : c ≠ mark := by
    rintro rfl
    exact (outside _ listed).elim (Nat.lt_irrefl _) (Nat.lt_irrefl _)
  refine isSeparator_false.mpr ⟨Outside.uncovered fun span listed => outside span ?_, unlike ?_, unlike ?_⟩
  · exact List.mem_cons_of_mem _ (List.mem_cons_of_mem _ listed)
  · decide
  · decide

/-! ## Letters are not led to separators -/

theorem lowerShifts_part : lowerShifts.all (Shift.lands (surrogates ++ separatorSpans)) = true := by
  decide +kernel

theorem upperShifts_part : upperShifts.all (Shift.lands (surrogates ++ separatorSpans)) = true := by
  decide +kernel

theorem upperExpansions_part : ∀ entry ∈ upperExpansions, ∀ letter ∈ entry.2,
    Outside (surrogates ++ separatorSpans) letter ∧ letter < 0x110000 := by
  decide +kernel

theorem moved_part {table : List Shift}
    (landed : table.all (Shift.lands (surrogates ++ separatorSpans)) = true) {c : Char}
    (inside : isSeparator c = false) :
    isSeparator (Char.ofNat (Shift.move table c.toNat)) = false := by
  rcases Shift.move_char landed c with stays | ⟨_, _, _, _, outside⟩
  · rwa [stays]
  · exact outside_separators outside

theorem upperOf_part {c : Char} (inside : isSeparator c = false) :
    ∀ d ∈ upperOf c, isSeparator d = false := by
  intro d listed
  rw [upperOf] at listed
  split at listed
  next letters expanded =>
    obtain ⟨entry, among, rfl⟩ := expansion_listed expanded
    obtain ⟨letter, here, rfl⟩ := List.mem_map.mp listed
    obtain ⟨outside, most⟩ := upperExpansions_part entry among letter here
    apply outside_separators
    rw [toNat_ofNat (fun span first => outside span (List.mem_append_left _ first)) most]
    exact fun span later => outside span (List.mem_append_right _ later)
  next =>
    rw [List.mem_singleton.mp listed]
    exact moved_part upperShifts_part inside

theorem lowerOf_part {c : Char} (inside : isSeparator c = false) :
    ∀ d ∈ lowerOf c, isSeparator d = false := by
  intro d listed
  rw [lowerOf] at listed
  split at listed
  · rcases List.mem_pair.mp listed with rfl | rfl
    · decide
    · decide +kernel
  · rw [List.mem_singleton.mp listed]
    exact moved_part lowerShifts_part inside

theorem lowerWithin_part {before after : List Char} {c : Char} (inside : isSeparator c = false) :
    ∀ d ∈ lowerWithin before after c, isSeparator d = false := by
  rw [lowerWithin]
  split
  · intro d listed
    rw [List.mem_singleton.mp listed, lowerSigma]
    split <;> decide
  · exact lowerOf_part inside

theorem lower_part {text : List Char} (inside : ∀ c ∈ text, isSeparator c = false) :
    ∀ d ∈ lower text, isSeparator d = false := by
  intro d listed
  obtain ⟨c, among, before, after, made⟩ := mem_lower listed
  exact lowerWithin_part (inside c among) d made

/-! ## Walks over a text -/

def walk (f : Char → Char → List Char) (before : Char) (text : List Char) : List Char :=
  (List.zip (before :: text) text).flatMap fun (before, c) => f before c

@[simp] theorem walk_nil (f : Char → Char → List Char) (before : Char) : walk f before [] = [] := rfl

@[simp] theorem walk_cons (f : Char → Char → List Char) (before c : Char) (rest : List Char) :
    walk f before (c :: rest) = f before c ++ walk f c rest := rfl

/-- The function does not tell separators apart, and makes nothing of a separator behind another. -/
structure Merges (f : Char → Char → List Char) : Prop where
  after : ∀ {first second : Char}, isSeparator first = true → isSeparator second = true →
    ∀ c, f first c = f second c
  alike : ∀ {first second : Char}, isSeparator first = true → isSeparator second = true →
    ∀ before, f before first = f before second
  again : ∀ {first second : Char}, isSeparator first = true → isSeparator second = true →
    f first second = []

section Runs
variable {f : Char → Char → List Char} {run other : List Char}

theorem Merges.walk_after (merges : Merges f) {first second : Char} (one : isSeparator first = true)
    (two : isSeparator second = true) (text : List Char) : walk f first text = walk f second text := by
  cases text with
  | nil => rfl
  | cons c rest => rw [walk_cons, walk_cons, merges.after one two]

theorem Merges.walk_run (merges : Merges f) (parting : ∀ c ∈ run, isSeparator c = true) (nonempty : run ≠ [])
    (before : Char) (back : List Char) : walk f before (run ++ back) = walk f before (' ' :: back) := by
  have space : isSeparator ' ' = true := by decide
  induction run generalizing before with
  | nil => exact absurd rfl nonempty
  | cons c rest ih =>
      have here := parting c List.mem_cons_self
      rw [List.cons_append, walk_cons, walk_cons, merges.alike here space]
      by_cases last : rest = []
      · rw [last, List.nil_append, merges.walk_after here space]
      · rw [ih (fun d later => parting d (List.mem_cons_of_mem _ later)) last, walk_cons,
          merges.again here space, List.nil_append]

theorem Merges.walk_runs (merges : Merges f) (parting : ∀ c ∈ run ++ other, isSeparator c = true)
    (first : run ≠ []) (second : other ≠ []) (before : Char) (front back : List Char) :
    walk f before (front ++ run ++ back) = walk f before (front ++ other ++ back) := by
  induction front generalizing before with
  | nil =>
      rw [List.nil_append, List.nil_append,
        merges.walk_run (fun c listed => parting c (List.mem_append_left _ listed)) first,
        merges.walk_run (fun c listed => parting c (List.mem_append_right _ listed)) second]
  | cons c front ih => exact congrArg (f before c ++ ·) (ih c)

end Runs

/-! ## Snake case -/

theorem isHump_part {before c : Char} (hump : isHump before c = true) : isSeparator before = false := by
  simp only [isHump, Ascii.isLower, Ascii.isDigit, Bool.and_eq_true, Bool.or_eq_true,
    decide_eq_true_eq] at hump
  have between : 97 ≤ before.toNat ∧ before.toNat ≤ 122 ∨ 48 ≤ before.toNat ∧ before.toNat ≤ 57 := hump.1
  have gaps : ∀ span ∈ separatorSpans,
      span.high < 48 ∨ 57 < span.low ∧ span.high < 97 ∨ 122 < span.low := by decide
  refine outside_separators fun span listed => ?_
  have gap := gaps span listed
  omega

theorem isHump_separator {before : Char} (parting : isSeparator before = true) (c : Char) :
    isHump before c = false :=
  Bool.eq_false_iff.mpr fun hump => Bool.eq_false_iff.mp (isHump_part hump) parting

theorem snakeChar_merges : Merges snakeChar where
  after one two c := by simp only [snakeChar, one, two, isHump_separator]
  alike one two before := by simp only [snakeChar, one, two, if_true]
  again one two := by simp only [snakeChar, one, two, if_true]

def Follows (before c : Char) : Prop :=
  isSeparator c = true → c = '_' ∧ isSeparator before = false

def Parted (before : Char) (text : List Char) : Prop :=
  (before :: text).IsChain Follows

theorem follows_inside {c : Char} (inside : isSeparator c = false) (before : Char) : Follows before c :=
  fun parting => absurd parting (Bool.eq_false_iff.mp inside)

section Parting
variable {before c : Char} {text rest : List Char}

theorem parted_cons : Parted before (c :: rest) ↔ Follows before c ∧ Parted c rest :=
  List.isChain_cons_cons

theorem Parted.behind (parted : Parted before text) {other : Char}
    (alike : isSeparator other = true → isSeparator before = true) : Parted other text := by
  cases text with
  | nil => exact List.isChain_singleton _
  | cons c rest =>
      obtain ⟨here, later⟩ := parted_cons.mp parted
      refine parted_cons.mpr ⟨fun parting => ?_, later⟩
      obtain ⟨low, inside⟩ := here parting
      exact ⟨low, Bool.eq_false_iff.mpr fun outer => Bool.eq_false_iff.mp inside (alike outer)⟩

theorem Parted.separators (parted : Parted before text) :
    ∀ c ∈ text, isSeparator c = true → c = '_' := by
  induction text generalizing before with
  | nil => exact fun c listed => nomatch listed
  | cons first rest ih =>
      obtain ⟨here, later⟩ := parted_cons.mp parted
      intro c listed parting
      rcases List.mem_cons.mp listed with rfl | among
      · exact (here parting).1
      · exact ih later c among parting

theorem Parted.single (parted : Parted before text) : ¬ ['_', '_'] <:+: text := by
  intro inside
  have pair := List.IsChain.infix parted (inside.trans (List.infix_cons (List.infix_refl _)))
  have follows : Follows '_' '_' := (List.isChain_cons_cons.mp pair).1
  exact absurd (follows (by decide)).2 (by decide)

theorem walk_parted (before : Char) (text : List Char) : Parted before (walk snakeChar before text) := by
  induction text generalizing before with
  | nil => exact List.isChain_singleton _
  | cons c rest ih =>
      -- A separator behind another adds nothing, and no hump stands behind a separator.
      rw [walk_cons, snakeChar]
      split
      next parting =>
        split
        next also => exact (ih c).behind fun _ => parting
        next inside =>
          have low : Follows before '_' := fun _ => ⟨rfl, Bool.eq_false_iff.mpr inside⟩
          exact parted_cons.mpr ⟨low, (ih c).behind fun _ => parting⟩
      next inside =>
        have own := follows_inside (Bool.eq_false_iff.mpr inside)
        split
        next hump =>
          have low : Follows before '_' := fun _ => ⟨rfl, isHump_part hump⟩
          exact parted_cons.mpr ⟨low, parted_cons.mpr ⟨own _, ih c⟩⟩
        next => exact parted_cons.mpr ⟨own _, ih c⟩

theorem Parted.word {word : List Char} (inside : ∀ d ∈ word, isSeparator d = false) (nonempty : word ≠ [])
    (parted : Parted c text) (before : Char) : Parted before (word ++ text) := by
  induction word generalizing before with
  | nil => exact absurd rfl nonempty
  | cons d rest ih =>
      have here := inside d List.mem_cons_self
      refine parted_cons.mpr ⟨follows_inside here _, ?_⟩
      by_cases last : rest = []
      · rw [last]
        exact parted.behind fun parting => absurd parting (Bool.eq_false_iff.mp here)
      · exact ih (fun other later => inside other (List.mem_cons_of_mem _ later)) last d

theorem lowerFrom_parted (passed : List Char) (parted : Parted before text) :
    Parted before (lowerFrom passed text) := by
  induction text generalizing before passed with
  | nil => exact parted
  | cons c rest ih =>
      obtain ⟨here, later⟩ := parted_cons.mp parted
      rw [lowerFrom]
      by_cases parting : isSeparator c = true
      · have low : Small c := (here parting).1 ▸ ⟨by decide, by decide⟩
        rw [low.stays]
        exact parted_cons.mpr ⟨here, ih _ later⟩
      · exact Parted.word (lowerWithin_part (Bool.eq_false_iff.mpr parting)) (lowerWithin_ne_nil _ _ _)
          (ih _ later) before

theorem walk_snake_stays (parted : Parted before text) (small : ∀ c ∈ text, Ascii.isUpper c = false) :
    walk snakeChar before text = text := by
  induction text generalizing before with
  | nil => rfl
  | cons c rest ih =>
      obtain ⟨here, later⟩ := parted_cons.mp parted
      have whole : snakeChar before c = [c] := by
        by_cases parting : isSeparator c = true
        · obtain ⟨rfl, inside⟩ := here parting
          simp only [snakeChar, inside, parting, if_true, Bool.false_eq_true, if_false]
        · simp only [snakeChar, parting, isHump, small c List.mem_cons_self, Bool.and_false,
            Bool.false_eq_true, if_false]
      rw [walk_cons, whole, ih later fun d among => small d (List.mem_cons_of_mem _ among)]
      rfl

end Parting

theorem snakeCase_eq (text : List Char) : snakeCase text = lower (walk snakeChar '.' text) := rfl

theorem snakeCase_parted (text : List Char) : Parted '.' (snakeCase text) := by
  rw [snakeCase_eq, lower_eq]
  exact lowerFrom_parted [] (walk_parted '.' text)

theorem snakeCase_clean (text : List Char) : ∀ c ∈ snakeCase text, isBlank c = false ∧ c ≠ '-' := by
  intro c listed
  by_cases parting : isSeparator c = true
  · rw [(snakeCase_parted text).separators c listed parting]
    decide
  · obtain ⟨blank, hyphen, _⟩ := isSeparator_false.mp (Bool.eq_false_iff.mpr parting)
    exact ⟨blank, hyphen⟩

theorem snakeCase_small (text : List Char) : ∀ c ∈ snakeCase text, Ascii.isUpper c = false :=
  fun c listed => (lower_small c listed).not_capital

theorem snakeCase_snakeCase (text : List Char) : snakeCase (snakeCase text) = snakeCase text := by
  rw [snakeCase_eq, walk_snake_stays (snakeCase_parted text) (snakeCase_small text), snakeCase_eq,
    lower_lower]

/-! ## Camel case -/

theorem camelChar_merges : Merges camelChar where
  after one two c := by simp only [camelChar, one, two]
  alike one two before := by simp only [camelChar, one, two, if_true]
  again _ two := by simp only [camelChar, two, if_true]

theorem walk_camel_part (before : Char) (text : List Char) :
    ∀ d ∈ walk camelChar before text, isSeparator d = false := by
  induction text generalizing before with
  | nil => exact fun d listed => nomatch listed
  | cons c rest ih =>
      intro d listed
      rw [walk_cons] at listed
      rcases List.mem_append.mp listed with first | later
      · rw [camelChar] at first
        split at first
        next => cases first
        next inside =>
          split at first
          next => exact upperOf_part (Bool.eq_false_iff.mpr inside) d first
          next => exact List.mem_singleton.mp first ▸ Bool.eq_false_iff.mpr inside
      · exact ih c d later

theorem walk_camel_stays {before : Char} {text : List Char}
    (inside : ∀ c ∈ before :: text, isSeparator c = false) : walk camelChar before text = text := by
  induction text generalizing before with
  | nil => rfl
  | cons c rest ih =>
      obtain ⟨first, later⟩ := List.forall_mem_cons.mp inside
      have whole : camelChar before c = [c] := by
        simp only [camelChar, first, later c List.mem_cons_self, Bool.false_eq_true, if_false]
      rw [walk_cons, whole, ih later]
      rfl

def lowerFirst (text : List Char) : List Char :=
  lower (text.take 1) ++ text.drop 1

theorem camelCase_eq (text : List Char) : camelCase text = lowerFirst (walk camelChar '.' text) := rfl

theorem lowerFirst_part {text : List Char} (inside : ∀ c ∈ text, isSeparator c = false) :
    ∀ c ∈ lowerFirst text, isSeparator c = false := by
  intro c listed
  rcases List.mem_append.mp listed with first | later
  · exact lower_part (fun d among => inside d (List.mem_of_mem_take among)) c first
  · exact inside c (List.mem_of_mem_drop later)

theorem lowerFirst_lowerFirst (text : List Char) : lowerFirst (lowerFirst text) = lowerFirst text := by
  cases text with
  | nil => rfl
  | cons c rest =>
      obtain ⟨first, later, formed⟩ := List.exists_cons_of_ne_nil (lowerWithin_ne_nil [] [] c)
      have small : lower [c] = first :: later := by
        rw [lower_eq, lowerFrom, formed]
        exact List.append_nil _
      have made : lowerFirst (c :: rest) = first :: (later ++ rest) := congrArg (· ++ rest) small
      have own : ∀ d ∈ [first], Small d := by
        intro d listed
        exact lower_small d (small ▸ List.mem_cons.mpr (Or.inl (List.mem_singleton.mp listed)))
      rw [made]
      exact congrArg (· ++ (later ++ rest)) (lower_stays own)

theorem camelCase_part (text : List Char) : ∀ c ∈ camelCase text, isSeparator c = false :=
  lowerFirst_part (walk_camel_part '.' text)

theorem camelCase_camelCase (text : List Char) : camelCase (camelCase text) = camelCase text := by
  have whole : walk camelChar '.' (camelCase text) = camelCase text :=
    walk_camel_stays (List.forall_mem_cons.mpr ⟨by decide, camelCase_part text⟩)
  rw [camelCase_eq, whole, camelCase_eq, lowerFirst_lowerFirst]

/-! ## Runs of separators -/

/-- Two texts that differ in one run of separators at most. -/
def Reseparated (first second : List Char) : Prop :=
  ∃ front run other back : List Char,
    first = front ++ run ++ back ∧ second = front ++ other ++ back ∧
      (∀ c ∈ run ++ other, isSeparator c = true) ∧ run ≠ [] ∧ other ≠ []

theorem Reseparated.walk_eq {first second : List Char} (alike : Reseparated first second)
    {f : Char → Char → List Char} (merges : Merges f) : walk f '.' first = walk f '.' second := by
  obtain ⟨front, run, other, back, rfl, rfl, parting, one, two⟩ := alike
  exact merges.walk_runs parting one two '.' front back

end Editing

end TextChain
