import TextChain.Editing
import TextChain.Pattern
import TextChain.Proofs.Occurrences

/-!
Patterns for one text. Where every mark of a text is escaped, the reader of patterns sees nothing but
letters, and the matcher takes these letters one after the other. The search for such a pattern stops just
where the text stands.
-/

namespace TextChain

open Editing

/-! ## Marks -/

theorem patternMarks_listed : patternMarks =
    ['-', '/', '\\', '^', '$', '*', '+', '?', '.', '(', ')', '|', '[', ']', '\x7b', '\x7d'] := rfl

theorem isMark_iff {c : Char} : isMark c = true ↔ c ∈ patternMarks :=
  List.contains_iff_mem

theorem unmarked_apart {c : Char} (unmarked : isMark c = false) : ∀ mark ∈ patternMarks, c ≠ mark := by
  rintro mark listed rfl
  rw [isMark_iff.mpr listed] at unmarked
  cases unmarked

theorem unmarked_backslash {c : Char} (unmarked : isMark c = false) : c ≠ '\\' :=
  unmarked_apart unmarked '\\' (isMark_iff.mp rfl)

def escapedToken (c : Char) : Token :=
  if isMark c then .escaped c else .plain c

theorem escapedToken_mark {c : Char} (marked : isMark c = true) : escapedToken c = .escaped c :=
  if_pos marked

theorem escapedToken_plain {c : Char} (unmarked : isMark c = false) : escapedToken c = .plain c :=
  if_neg (Bool.not_eq_true _ ▸ unmarked)

theorem escapeMarks_cons (c : Char) (text : List Char) :
    escapeMarks (c :: text) = (escapedToken c).text ++ escapeMarks text := by
  rw [escapeMarks, List.flatMap_cons, escapedToken]
  split <;> rfl

theorem escapeMarks_length (text : List Char) : text.length ≤ (escapeMarks text).length := by
  induction text with
  | nil => exact Nat.le_refl 0
  | cons c rest ih =>
      have wide : 0 < (escapedToken c).text.length := by
        unfold escapedToken
        split <;> exact Nat.succ_pos _
      rw [escapeMarks_cons, List.length_append, List.length_cons]
      omega

theorem tokensOnto_escape (done : List Token) (text : List Char) :
    tokensOnto done (escapeMarks text) = done.reverse ++ text.map escapedToken := by
  induction text generalizing done with
  | nil => simp [escapeMarks, tokensOnto]
  | cons c rest ih =>
      have taken : tokensOnto done ((escapedToken c).text ++ escapeMarks rest) =
          tokensOnto (escapedToken c :: done) (escapeMarks rest) := by
        cases marked : isMark c with
        | true =>
            rw [escapedToken_mark marked]
            rfl
        | false =>
            rw [escapedToken_plain marked]
            simp [Token.text, tokensOnto, unmarked_backslash marked]
      rw [escapeMarks_cons, taken, ih]
      simp

theorem tokens_escape (text : List Char) : tokens (escapeMarks text) = text.map escapedToken :=
  tokensOnto_escape [] text

/-! ## Reading -/

def Reading.behind (reading : Reading) (token : Token) (rest : List Token) : Reading :=
  { reading with ahead := rest, place := reading.place + token.text.length }

section Reading
variable {reading : Reading} {c : Char} {rest : List Char}

theorem settle_escaped {text : List Char} (ahead : reading.ahead = text.map escapedToken) :
    reading.settle = .ok reading := by
  rw [Reading.settle, ahead]
  cases text with
  | nil => rfl
  | cons d rest =>
      rw [List.map_cons, escapedToken]
      cases isMark d <;> rfl

theorem take_escaped (ahead : reading.ahead = (c :: rest).map escapedToken) :
    reading.take =
      .ok (some (escapedToken c), reading.behind (escapedToken c) (rest.map escapedToken)) := by
  have settled : (reading.behind (escapedToken c) (rest.map escapedToken)).settle = .ok _ :=
    settle_escaped rfl
  rw [Reading.take, ahead]
  exact congrArg (· >>= fun moved => Except.ok (some (escapedToken c), moved)) settled

theorem readEscape_mark (marked : isMark c = true) (reading : Reading) :
    readEscape c reading = .ok (.letter c.toNat, reading) := by
  have listed : c ∈ patternMarks := isMark_iff.mp marked
  rw [patternMarks_listed] at listed
  simp only [List.mem_cons, List.not_mem_nil, or_false] at listed
  -- For each mark the reader tries the escapes that have a meaning in turn, and none of them fits.
  rcases listed with rfl | rfl | rfl | rfl | rfl | rfl | rfl | rfl | rfl | rfl | rfl | rfl | rfl | rfl |
    rfl | rfl <;> rfl

/-- Escaped or not, the next character is read as a letter. -/
theorem readItems_letter (ahead : reading.ahead = (c :: rest).map escapedToken) (fuel : Nat)
    (leading : Bool) (items : List Item) :
    readItems (fuel + 1) false leading items reading =
      readItems fuel false leading (.single (.letter c.toNat) :: items)
        (reading.behind (escapedToken c) (rest.map escapedToken)) := by
  have taken := take_escaped ahead
  rw [readItems, ahead, List.map_cons]
  cases marked : isMark c with
  | true =>
      simp only [escapedToken_mark marked] at taken ⊢
      simp only [reduceCtorEq, decide_false, Bool.or_self, Bool.false_eq_true, ↓reduceIte, taken, bind,
        Except.bind, readEscape_mark marked]
  | false =>
      have apart := unmarked_apart marked
      simp only [patternMarks_listed, List.forall_mem_cons] at apart
      have noSign : isRepeatSign c = false := by simp [isRepeatSign, apart]
      simp only [escapedToken_plain marked] at taken ⊢
      simp only [Token.plain.injEq, apart, decide_false, Bool.or_self, Bool.false_eq_true, ↓reduceIte,
        taken, bind, Except.bind, Bool.false_and, noSign]

def letterItems (text : List Char) : List Item :=
  (text.map fun c => .single (.letter c.toNat)).reverse

theorem readItems_letters {text : List Char} (ahead : reading.ahead = text.map escapedToken)
    {fuel : Nat} (enough : text.length < fuel) (leading : Bool) (items : List Item) :
    ∃ place, readItems fuel false leading items reading =
      .ok (letterItems text ++ items, { reading with ahead := [], place }) := by
  -- Every letter uses up one token and one unit of the fuel, so the fuel lasts to the end of the text.
  induction text generalizing reading fuel items with
  | nil =>
      obtain ⟨fuel, rfl⟩ := Nat.exists_eq_succ_of_ne_zero (Nat.ne_of_gt enough)
      have done : reading.ahead = [] := ahead
      exact ⟨reading.place, by rw [readItems, done]; simp [letterItems, ← done]⟩
  | cons c rest ih =>
      obtain ⟨fuel, rfl⟩ := Nat.exists_eq_succ_of_ne_zero (Nat.ne_of_gt (Nat.zero_lt_of_lt enough))
      have behind : (reading.behind (escapedToken c) (rest.map escapedToken)).ahead =
          rest.map escapedToken := rfl
      obtain ⟨place, read⟩ := ih behind (Nat.lt_of_succ_lt_succ enough)
        (.single (.letter c.toNat) :: items)
      refine ⟨place, ?_⟩
      rw [readItems_letter ahead, read]
      simp [letterItems, Reading.behind]

end Reading

/-! ## The pattern of a text -/

def letterNodes (text : List Char) : List Node :=
  text.map fun c => .letter c.toNat

theorem itemNodes_letters (text : List Char) : itemNodes (letterItems text) = letterNodes text := by
  induction text with
  | nil => rfl
  | cons c rest ih =>
      simp only [itemNodes, letterItems, List.reverse_reverse, letterNodes] at ih ⊢
      rw [List.map_cons, List.flatMap_cons, ih]
      rfl

/-- No letter has a defect, and a text has no other nodes. -/
theorem letters_sound (template : Bool) (text : List Char) :
    (Node.concat (letterNodes text)).defect? template = none := by
  have sound : ∀ node ∈ (Node.concat (letterNodes text)).inOrder,
      node.loose? template = none ∧ node.distant? = none := by
    induction text with
    | nil => simp [letterNodes, Node.concat, Node.inOrder, Node.loose?, Node.distant?]
    | cons c rest ih =>
        cases rest with
        | nil => simp [letterNodes, Node.concat, Node.inOrder, Node.loose?, Node.distant?]
        | cons d rest =>
            intro node listed
            rcases List.mem_append.mp listed with first | later
            · obtain rfl := List.mem_singleton.mp first
              exact ⟨rfl, rfl⟩
            · exact ih node later
  have tight := List.findSome?_eq_none_iff.mpr fun node listed => (sound node listed).1
  have near := List.findSome?_eq_none_iff.mpr fun node listed => (sound node listed).2
  rw [Node.defect?, tight, near]
  rfl

/-- What the escaped text is read as: its letters, one after the other, without any group. -/
def literalPattern (text : List Char) : Pattern :=
  { source := escapeMarks text
    flags := {}
    node := .concat (letterNodes text)
    groups := 0
    names := [] }

theorem readAlternatives_letters {reading : Reading} {text : List Char}
    (ahead : reading.ahead = text.map escapedToken) {fuel : Nat} (enough : text.length < fuel)
    (top first : Bool) :
    ∃ place, readAlternatives (fuel + 1) false top first reading =
      .ok ([letterNodes text], { reading with ahead := [], place }) := by
  obtain ⟨place, read⟩ := readItems_letters ahead enough (top && first) []
  refine ⟨place, ?_⟩
  rw [List.append_nil] at read
  rw [readAlternatives, read, ← itemNodes_letters]
  rfl

theorem read_escaped (text : List Char) :
    Pattern.ofText? {} (escapeMarks text) = .ok (literalPattern text) := by
  have begun : Reading.ahead { ahead := tokens (escapeMarks text) } = text.map escapedToken :=
    tokens_escape text
  have enough : text.length < 5 * (escapeMarks text).length + 4 := by
    have := escapeMarks_length text
    omega
  obtain ⟨place, read⟩ := readAlternatives_letters begun enough true true
  have done : readPattern false {} (escapeMarks text) = .ok (literalPattern text) := by
    simp only [readPattern, settle_escaped begun, bind, Except.bind, read]
    simp only [Reading.tornKinds?, Reading.strayCondition?, Reading.pattern?, Node.alternatives,
      letters_sound]
    rfl
  rw [Pattern.ofText?, Pattern.read, done]

/-! ## Matching -/

theorem letterClass_accepts (c d : Char) : (Flags.letterClass {} c.toNat).accepts d = (c == d) := by
  have same : d.toNat = c.toNat ↔ c = d := Char.toNat_inj.trans eq_comm
  exact Bool.eq_iff_iff.mpr (by simpa [Flags.letterClass] using same)

section Matching
variable {next : Next} {cursor : Cursor} {fallback : Fallback}

theorem run_letter (c : Char) :
    (Matcher.step (Flags.letterClass {} c.toNat)).run next cursor fallback =
      match dropHead? [c] cursor.after with
      | some after => next (cursor.past [c] after) fallback
      | none => .further fallback := by
  rw [Matcher.run]
  cases ahead : cursor.after with
  | nil => rfl
  | cons d rest =>
      simp only [letterClass_accepts, dropHead?]
      by_cases same : c = d
      · simp [same, Cursor.onto, Cursor.past]
      · simp [same]

theorem matcher_letters (c d : Char) (rest : List Char) :
    (Node.concat (letterNodes (c :: d :: rest))).matcher {} none =
      .sequence (.step (Flags.letterClass {} c.toNat))
        ((Node.concat (letterNodes (d :: rest))).matcher {} none) := rfl

theorem past_past (cursor : Cursor) (first second between after : List Char) :
    (cursor.past first between).past second after = cursor.past (first ++ second) after := by
  simp [Cursor.past, Nat.add_assoc]

/-- The letters of a text are taken where the text stands, and nowhere else. -/
theorem run_letters (text : List Char) :
    ((Node.concat (letterNodes text)).matcher {} none).run next cursor fallback =
      match dropHead? text cursor.after with
      | some after => next (cursor.past text after) fallback
      | none => .further fallback := by
  induction text generalizing next cursor fallback with
  | nil => rfl
  | cons c rest ih =>
      cases rest with
      | nil => exact run_letter c
      | cons d rest =>
          -- The first letter has a matcher of its own, behind which the matcher of the rest is run.
          have apart : dropHead? (c :: d :: rest) cursor.after =
              (dropHead? [c] cursor.after).bind (dropHead? (d :: rest)) := by
            cases cursor.after with
            | nil => rfl
            | cons e ahead => cases same : c == e <;> simp [dropHead?, same]
          rw [matcher_letters, Matcher.run, run_letter, apart]
          cases dropHead? [c] cursor.after with
          | none => rfl
          | some between =>
              simp only [ih, past_past, Option.bind_some]
              rfl

theorem attempt_letters (text : List Char) (start : Cursor) :
    ((Node.concat (letterNodes text)).matcher {} none).attempt (fun _ => true) start =
      (dropHead? text start.after).map (start.past text) := by
  rw [Matcher.attempt, run_letters]
  cases dropHead? text start.after <;> rfl

/-- Where a text stands, the next character is the one that it begins with. -/
theorem meets_letters {text : List Char} {start : Cursor}
    (stands : (dropHead? text start.after).isSome = true) :
    start.meets ((Node.concat (letterNodes text)).matcher {} none).lead? = true := by
  cases text with
  | nil => rfl
  | cons c rest =>
      have lead : ((Node.concat (letterNodes (c :: rest))).matcher {} none).lead? =
          some (Flags.letterClass {} c.toNat) := by
        cases rest <;> rfl
      rw [lead, Cursor.meets]
      cases ahead : start.after with
      | nil => simp [ahead, dropHead?] at stands
      | cons d after =>
          rw [ahead, dropHead?] at stands
          split at stands
          next same => exact (letterClass_accepts c d).trans same
          next => cases stands

theorem leadClass_letters (flags : Flags) (text : List Char) :
    (Node.concat (letterNodes text)).leadClass flags = .all := by
  cases text with
  | nil => rfl
  | cons c rest => cases rest <;> rfl

theorem literal_seeks (text : List Char) : (literalPattern text).search.Seeks text := by
  intro start
  have anything : (start.after.isEmpty || start.meets (some .all)) = true := by
    cases ahead : start.after with
    | nil => rfl
    | cons c rest => simp [Cursor.meets, ahead, CharClass.all]
  simp only [Pattern.search, Matcher.search, literalPattern, leadClass_letters, anything, Bool.and_true,
    attempt_letters]
  cases stands : dropHead? text start.after with
  | none => simp
  | some after => rw [meets_letters (Option.isSome_of_eq_some stands)]; rfl

end Matching

/-! ## Searching -/

theorem literal_find? (needle text : List Char) :
    (literalPattern needle).find? text =
      (cut? needle text).map fun parts => (parts.1, ⟨needle, []⟩, parts.2) :=
  seeks_find? (literal_seeks needle) text

theorem literal_cuts {needle : List Char} (nonempty : needle ≠ []) (text : List Char) :
    ((literalPattern needle).search.cuts text).1.map (·.gap) ++
        [((literalPattern needle).search.cuts text).2] =
      split needle text :=
  seeks_cuts (literal_seeks needle) nonempty text

theorem literal_split {needle : List Char} (nonempty : needle ≠ []) (text : List Char) :
    (literalPattern needle).split text = (split needle text).map some := by
  rw [← literal_cuts nonempty text, List.map_append, List.map_map, Pattern.split, Search.split]
  -- Without groups a hit leaves nothing between the parts.
  exact congrArg (· ++ _) List.map_eq_flatMap.symm

end TextChain
