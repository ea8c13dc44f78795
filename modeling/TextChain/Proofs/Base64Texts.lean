import TextChain.Proofs.Numerals
import TextChain.Proofs.PatternLanguages

/-!
Texts in base 64. They fall into groups of four figures, the last of which may be filled up with one or two
equals signs. The check asks for the length and for the fill alone, the pattern that it stands for goes from
group to group. Whatever bytes are encoded, the text that comes out is accepted.
-/

namespace TextChain

variable {chance : Edit.Chance}

/-! ## Figures -/

def sextets : List Char :=
  "ABCDEFGHIJKLMNOPQRSTUVWXYZabcdefghijklmnopqrstuvwxyz0123456789+/".toList

theorem isBase64Char_ascii {c : Char} (figure : Checking.isBase64Char c = true) : c.toNat < 128 := by
  simp only [Checking.isBase64Char, Bool.or_eq_true, beq_iff_eq] at figure
  rcases figure with (sort | rfl) | rfl
  · exact letterOrDigit_ascii sort
  · decide
  · decide

theorem isBase64Char_iff {c : Char} : Checking.isBase64Char c = true ↔ c ∈ sextets := by
  constructor
  · intro figure
    have all : ∀ n : Fin 128, Checking.isBase64Char (Char.ofNat n) = true → Char.ofNat n ∈ sextets := by
      decide +kernel
    have listed := all ⟨c.toNat, isBase64Char_ascii figure⟩
    rw [Char.ofNat_toNat] at listed
    exact listed figure
  · have all : sextets.all Checking.isBase64Char = true := by decide
    exact List.all_eq_true.mp all c

/-! ## Grammar -/

/-- What fills up the last group. -/
inductive Fill : List Char → Prop
  | full : Fill []
  | single : Fill ['=']
  | double : Fill ['=', '=']

/-- Groups of four characters: figures, and a fill behind them. -/
structure Base64Text (text : List Char) : Prop where
  grouped : 4 ∣ text.length
  filled : ∃ body fill, text = body ++ fill ∧ (∀ c ∈ body, c ∈ sextets) ∧ Fill fill

section Grammar
variable {text : List Char}

theorem fill_iff : Fill text ↔ text ∈ [[], ['='], ['=', '=']] := by
  constructor
  · rintro (_ | _ | _) <;> decide
  · intro listed
    simp only [List.mem_cons, List.not_mem_nil, or_false] at listed
    rcases listed with rfl | rfl | rfl
    · exact .full
    · exact .single
    · exact .double

theorem body_dropped {body fill : List Char} (figures : ∀ c ∈ body, c ∈ sextets) (filled : Fill fill) :
    (body ++ fill).dropWhile Checking.isBase64Char = fill := by
  apply digits_left
  · exact fun c listed => isBase64Char_iff.mpr (figures c listed)
  · intro c first
    cases filled <;> cases first <;> rfl

theorem isBase64_iff : Checking.isBase64 text = true ↔ Base64Text text := by
  rw [Checking.isBase64, Bool.and_eq_true, beq_iff_eq, List.contains_iff_mem, ← fill_iff]
  constructor
  · rintro ⟨grouped, filled⟩
    refine ⟨Nat.dvd_of_mod_eq_zero grouped, text.takeWhile Checking.isBase64Char, _, ?_, ?_, filled⟩
    · exact List.takeWhile_append_dropWhile.symm
    · exact fun c listed => isBase64Char_iff.mp (List.mem_takeWhile_imp listed)
  · rintro ⟨grouped, body, fill, rfl, figures, filled⟩
    refine ⟨Nat.mod_eq_zero_of_dvd grouped, ?_⟩
    rwa [body_dropped figures filled]

theorem Base64Text.sign_late (accepted : Base64Text text) {place : Nat} (sign : text[place]? = some '=') :
    text.length ≤ place + 2 := by
  obtain ⟨_, body, fill, rfl, figures, filled⟩ := accepted
  have short : fill.length ≤ 2 := by cases filled <;> decide
  have past : body.length ≤ place := by
    by_contra within
    rw [List.getElem?_append_left (Nat.not_le.mp within)] at sign
    exact absurd (figures '=' (List.mem_of_getElem? sign)) (by decide)
  rw [List.length_append]
  omega

end Grammar

/-! ## The pattern -/

def base64Source : String :=
  "(?:[A-Za-z0-9+/]\x7b4\x7d)*(?:[A-Za-z0-9+/]\x7b2\x7d==|[A-Za-z0-9+/]\x7b3\x7d=)?"

def sextetMembers : List Member :=
  [.between 'A' 'Z', .between 'a' 'z', .between '0' '9', .point '+'.toNat, .point '/'.toNat]

def sextetNode (count : Nat) : Node :=
  .loop .greedy count (some count) (.set false sextetMembers)

def base64Pattern : Pattern where
  source := base64Source.toList
  flags := {}
  node := .concat [.loop .greedy 0 none (sextetNode 4),
    .loop .greedy 0 (some 1)
      (.choice (.concat (sextetNode 2 :: letterNodes ['=', '=']))
        (.concat (sextetNode 3 :: letterNodes ['='])))]
  groups := 0
  names := []

theorem base64_read : Pattern.ofText? {} base64Source.toList = .ok base64Pattern := by
  decide +kernel

theorem sextet_accepts (c : Char) : (setClass {} false sextetMembers).accepts c = true ↔ c ∈ sextets := by
  have cased : ({} : Flags).ignoreCase = false := rfl
  rw [← isBase64Char_iff, setClass_accepts cased]
  simp only [sextetMembers, List.any_cons, List.any_nil, Bool.or_false, between_accepts cased,
    point_accepts cased, Checking.isBase64Char, Ascii.isLetterOrDigit, Ascii.isLetter, Ascii.isUpper,
    Ascii.isLower, Ascii.isDigit, Bool.or_assoc]

section Groups
variable {text rest : List Char}

theorem language_sextets {count : Nat} :
    (sextetNode count).language {} text rest ↔ text.length = count ∧ ∀ c ∈ text, c ∈ sextets := by
  rw [sextetNode, Node.language, Node.language, looped_exactly]
  simp only [Stretched, sextet_accepts]

theorem language_groups :
    (Node.loop .greedy 0 none (sextetNode 4)).language {} text rest ↔
      4 ∣ text.length ∧ ∀ c ∈ text, c ∈ sextets := by
  have group (text rest : List Char) : (sextetNode 4).language {} text rest ↔
      Stretched (setClass {} false sextetMembers) 4 text rest := looped_exactly
  have groups (count : Nat) := (repeated_congr group count text rest).trans repeated_stretched
  simp only [Stretched, sextet_accepts] at groups
  constructor
  · rintro ⟨count, _, _, repeated⟩
    obtain ⟨length, figures⟩ := (groups count).mp repeated
    exact ⟨⟨count, length.trans (Nat.mul_comm count 4)⟩, figures⟩
  · rintro ⟨⟨count, length⟩, figures⟩
    have grouped : text.length = count * 4 := length.trans (Nat.mul_comm 4 count)
    exact ⟨count, Nat.zero_le _, .unbounded _, (groups count).mpr ⟨grouped, figures⟩⟩

theorem language_last {count : Nat} {fill : List Char} :
    (Node.concat (sextetNode count :: letterNodes fill)).language {} text rest ↔
      ∃ last, text = last ++ fill ∧ last.length = count ∧ ∀ c ∈ last, c ∈ sextets := by
  rw [language_ending]
  simp only [language_sextets]

theorem last_group (body : List Char) :
    ∃ groups last, body = groups ++ last ∧ 4 ∣ groups.length ∧ last.length = body.length % 4 := by
  refine ⟨body.take (4 * (body.length / 4)), body.drop (4 * (body.length / 4)), ?_, ?_, ?_⟩
  · exact (List.take_append_drop _ body).symm
  · rw [List.length_take, Nat.min_eq_left (Nat.mul_div_le _ _)]
    exact Nat.dvd_mul_right _ _
  · rw [List.length_drop]
    omega

end Groups

/-- The pattern fits just the texts in base 64. -/
theorem base64Pattern_fits {text : List Char} : base64Pattern.fits text = true ↔ Base64Text text := by
  have forward : base64Pattern.node.isForward = true := rfl
  have tail (back : List Char) :
      (Node.concat [.loop .greedy 0 (some 1) (.choice (.concat (sextetNode 2 :: letterNodes ['=', '=']))
        (.concat (sextetNode 3 :: letterNodes ['='])))]).language {} back [] ↔
          back = [] ∨ (∃ last, back = last ++ ['=', '='] ∧ last.length = 2 ∧ ∀ c ∈ last, c ∈ sextets) ∨
            ∃ last, back = last ++ ['='] ∧ last.length = 3 ∧ ∀ c ∈ last, c ∈ sextets := by
    rw [← language_last, ← language_last]
    exact looped_once
  rw [Pattern.fits_iff forward]
  simp only [base64Pattern, @language_concat _ _ _ _ [_], language_groups, tail]
  constructor
  · rintro ⟨groups, back, rfl, ⟨grouped, figures⟩, rest⟩
    rcases rest with rfl | ⟨last, rfl, length, more⟩ | ⟨last, rfl, length, more⟩
    · exact ⟨by rwa [List.append_nil], groups, [], rfl, figures, .full⟩
    · refine ⟨?_, groups ++ last, _, (List.append_assoc _ _ _).symm, ?_, .double⟩
      · simp [length, grouped]
      · exact List.forall_mem_append.mpr ⟨figures, more⟩
    · refine ⟨?_, groups ++ last, _, (List.append_assoc _ _ _).symm, ?_, .single⟩
      · simp [length, grouped]
      · exact List.forall_mem_append.mpr ⟨figures, more⟩
  · rintro ⟨grouped, body, fill, rfl, figures, filled⟩
    obtain ⟨groups, last, rfl, whole, length⟩ := last_group body
    obtain ⟨early, late⟩ := List.forall_mem_append.mp figures
    refine ⟨groups, last ++ fill, List.append_assoc _ _ _, ⟨whole, early⟩, ?_⟩
    rw [List.length_append] at grouped
    -- The fill tells how many figures are left over.
    cases filled with
    | full =>
        obtain rfl : last = [] := List.length_eq_zero_iff.mp (by simp at grouped; omega)
        exact Or.inl rfl
    | double => exact Or.inr (Or.inl ⟨last, rfl, by simp at grouped; omega, late⟩)
    | single => exact Or.inr (Or.inr ⟨last, rfl, by simp at grouped; omega, late⟩)

/-! ## Encoding -/

def sextetsOf : Nat → Nat → List Char
  | 0, _ => []
  | count + 1, number => sextetsOf count (number / 64) ++ [(sextets[number % 64]?).getD 'A']

/-- Three bytes are one number of four figures. If one or two are left in the end, zeros fill their bits up
to whole figures, and equals signs the figures up to a group. -/
def base64Of : List UInt8 → List Char
  | [] => []
  | [a] => sextetsOf 2 (a.toNat * 16) ++ ['=', '=']
  | [a, b] => sextetsOf 3 ((a.toNat * 256 + b.toNat) * 4) ++ ['=']
  | a :: b :: c :: bytes => sextetsOf 4 ((a.toNat * 256 + b.toNat) * 256 + c.toNat) ++ base64Of bytes

theorem sextetsOf_figures (count number : Nat) :
    (sextetsOf count number).length = count ∧ ∀ c ∈ sextetsOf count number, c ∈ sextets := by
  induction count generalizing number with
  | zero => exact ⟨rfl, nofun⟩
  | succ count ih =>
      obtain ⟨length, figures⟩ := ih (number / 64)
      have small : number % 64 < sextets.length := Nat.mod_lt number (by decide)
      constructor
      · rw [sextetsOf, List.length_append, length, List.length_singleton]
      · refine List.forall_mem_append.mpr ⟨figures, ?_⟩
        rw [List.forall_mem_singleton, List.getElem?_eq_getElem small, Option.getD_some]
        exact List.getElem_mem small

theorem Base64Text.after {text : List Char} (accepted : Base64Text text) (number : Nat) :
    Base64Text (sextetsOf 4 number ++ text) := by
  obtain ⟨grouped, body, fill, rfl, figures, filled⟩ := accepted
  obtain ⟨length, first⟩ := sextetsOf_figures 4 number
  refine ⟨?_, sextetsOf 4 number ++ body, fill, (List.append_assoc _ _ _).symm, ?_, filled⟩
  · rw [List.length_append, length]
    exact Nat.dvd_add (Nat.dvd_refl 4) grouped
  · exact List.forall_mem_append.mpr ⟨first, figures⟩

theorem encoded_base64 (bytes : List UInt8) : Base64Text (base64Of bytes) := by
  induction bytes using base64Of.induct with
  | case1 => exact ⟨Nat.dvd_zero 4, [], [], rfl, nofun, .full⟩
  | case2 a =>
      obtain ⟨length, figures⟩ := sextetsOf_figures 2 (a.toNat * 16)
      exact ⟨by simp [base64Of, length], _, _, rfl, figures, .double⟩
  | case3 a b =>
      obtain ⟨length, figures⟩ := sextetsOf_figures 3 ((a.toNat * 256 + b.toNat) * 4)
      exact ⟨by simp [base64Of, length], _, _, rfl, figures, .single⟩
  | case4 a b c bytes ih => exact ih.after _

example : base64Of [102] = "Zg==".toList ∧ base64Of [102, 111] = "Zm8=".toList ∧
    base64Of [102, 111, 111] = "Zm9v".toList := by decide

/-- A text is accepted if it is in base 64, and this is what the pattern says that the step stands for. So
whatever bytes are encoded, their text is accepted, and an equals sign stands in an accepted text only in
one of the last two places. -/
theorem base64_texts_are_accepted (chance : Edit.Chance) (subject : Name) :
    ∃ holds : Bool,
      chance.catalogue.answer .assertion "is_base64" [] subject.toValue = .ok (.bool holds) ∧
      (∃ pattern, Pattern.ofText? {} base64Source.toList = .ok pattern ∧
        pattern.fits subject.label.toList = holds) ∧
      (holds = true ↔ Base64Text subject.label.toList) ∧
      (∀ bytes : List UInt8, subject.label.toList = base64Of bytes → holds = true) ∧
      (holds = true → ∀ place : Nat, subject.label.toList[place]? = some '=' →
        subject.label.toList.length ≤ place + 2) := by
  refine ⟨Checking.isBase64 subject.label.toList, ?answered, ?pattern, isBase64_iff, ?encoded, ?signs⟩
  case answered => exact answer_textCheck Checking.isBase64 rfl subject
  case pattern =>
    refine ⟨base64Pattern, base64_read, ?_⟩
    rw [Bool.eq_iff_iff, base64Pattern_fits, isBase64_iff]
  case encoded =>
    intro bytes written
    rw [isBase64_iff, written]
    exact encoded_base64 bytes
  case signs =>
    intro accepted place sign
    exact (isBase64_iff.mp accepted).sign_late sign

end TextChain
