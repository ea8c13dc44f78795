import TextChain.Proofs.Hashes

/-!
Texts in percent encoding. A text is encoded character by character into unreserved characters and escapes
of two figures. The bytes that are written in this way are the UTF-8 form of the text, so that it can be
read back, and only a text of unreserved characters stays as it is.
-/

namespace TextChain

variable {chance : Edit.Chance}

/-! ## Encoded texts -/

def unreserved : List Char :=
  "ABCDEFGHIJKLMNOPQRSTUVWXYZabcdefghijklmnopqrstuvwxyz0123456789-_.~!'()*".toList

def capitalFigures : List Char := "0123456789ABCDEF".toList

/-- Texts of unreserved characters and of percent signs that have two capital figures behind them. -/
inductive PercentText : List Char → Prop
  | empty : PercentText []
  | plain {c : Char} {rest : List Char} (free : c ∈ unreserved) (later : PercentText rest) :
      PercentText (c :: rest)
  | escape {high low : Char} {rest : List Char} (first : high ∈ capitalFigures)
      (second : low ∈ capitalFigures) (later : PercentText rest) :
      PercentText ('%' :: high :: low :: rest)

/-- The bytes that an encoded text stands for: one for every escape and one for every other character. -/
def percentBytes : List Char → List UInt8
  | [] => []
  | '%' :: high :: low :: rest =>
      UInt8.ofNat (hexValue high * 16 + hexValue low) :: percentBytes rest
  | c :: rest => UInt8.ofNat c.toNat :: percentBytes rest

/-! ## Unreserved characters -/

theorem unreserved_ascii {c : Char} (free : c ∈ unreserved) : c.toNat < 128 ∧ c ≠ '%' := by
  have all : unreserved.all (fun c => decide (c.toNat < 128 ∧ c ≠ '%')) = true := by decide
  exact of_decide_eq_true (List.all_eq_true.mp all c free)

theorem isUnreserved_ascii {c : Char} (free : isUnreserved c = true) : c.toNat < 128 := by
  simp only [isUnreserved, Ascii.isLetter, Ascii.isUpper, Ascii.isLower, Ascii.isDigit, Bool.or_eq_true,
    Bool.and_eq_true, decide_eq_true_eq, List.contains_iff_mem] at free
  rcases free with ((⟨_, most⟩ | ⟨_, most⟩) | ⟨_, most⟩) | mark
  · have : c.toNat ≤ 90 := most
    omega
  · have : c.toNat ≤ 122 := most
    omega
  · have : c.toNat ≤ 57 := most
    omega
  · have all : "-_.~!'()*".toList.all (fun c => decide (c.toNat < 128)) = true := by decide
    exact of_decide_eq_true (List.all_eq_true.mp all c mark)

theorem isUnreserved_iff {c : Char} : isUnreserved c = true ↔ c ∈ unreserved := by
  constructor
  · intro free
    have all : ∀ n : Fin 128, isUnreserved (Char.ofNat n) = true → Char.ofNat n ∈ unreserved := by
      decide +kernel
    have listed := all ⟨c.toNat, isUnreserved_ascii free⟩
    rw [Char.ofNat_toNat] at listed
    exact listed free
  · have all : unreserved.all isUnreserved = true := by decide
    exact List.all_eq_true.mp all c

/-! ## Bytes -/

/-- The bytes of a character are those of its UTF-8 form. -/
theorem utf8Of_usual (c : Char) : utf8Of c = (String.utf8EncodeChar c).map UInt8.toNat := by
  have bound := codePoint_bound c
  have value : c.val.toNat = c.toNat := rfl
  simp only [utf8Of, String.utf8EncodeChar, value, apply_ite (List.map UInt8.toNat), List.map_cons,
    List.map_nil, UInt8.toNat_ofNat']
  -- Both sides ask for the same ranges, and no byte of a code point in its range is cut off.
  by_cases one : c.toNat < 128
  · rw [if_pos one, if_pos (by omega)]
    simp only [List.cons.injEq, and_true]
    omega
  by_cases two : c.toNat < 2048
  · rw [if_neg one, if_pos two, if_neg (by omega), if_pos (by omega)]
    simp only [List.cons.injEq, and_true]
    omega
  by_cases three : c.toNat < 65536
  · rw [if_neg one, if_neg two, if_pos three, if_neg (by omega), if_neg (by omega), if_pos (by omega)]
    simp only [List.cons.injEq, and_true]
    omega
  · rw [if_neg one, if_neg two, if_neg three, if_neg (by omega), if_neg (by omega), if_neg (by omega)]
    simp only [List.cons.injEq, and_true]
    omega

theorem utf8_ascii {c : Char} (small : c.toNat < 128) :
    String.utf8EncodeChar c = [UInt8.ofNat c.toNat] :=
  if_pos (Nat.le_of_lt_succ small)

theorem hexCapital_read {figure : Nat} (small : figure < 16) :
    hexCapital figure ∈ capitalFigures ∧ hexValue (hexCapital figure) = figure := by
  have all : ∀ figure : Fin 16,
      hexCapital figure ∈ capitalFigures ∧ hexValue (hexCapital figure) = figure := by decide
  exact all ⟨figure, small⟩

section Escapes
variable (byte : UInt8)

theorem figures_small : byte.toNat / 16 < 16 ∧ byte.toNat % 16 < 16 := by
  have bound := byte.toNat_lt
  omega

theorem percentBytes_escape (rest : List Char) :
    percentBytes (percentByte byte.toNat ++ rest) = byte :: percentBytes rest := by
  obtain ⟨high, low⟩ := figures_small byte
  simp only [percentByte, List.cons_append, List.nil_append, percentBytes, (hexCapital_read high).2,
    (hexCapital_read low).2, Nat.div_add_mod', UInt8.ofNat_toNat]

theorem PercentText.withByte {rest : List Char} (later : PercentText rest) :
    PercentText (percentByte byte.toNat ++ rest) := by
  obtain ⟨high, low⟩ := figures_small byte
  exact .escape (hexCapital_read high).1 (hexCapital_read low).1 later

end Escapes

theorem percentBytes_escapes (bytes : List UInt8) (rest : List Char) :
    percentBytes (bytes.flatMap (fun byte => percentByte byte.toNat) ++ rest) =
      bytes ++ percentBytes rest := by
  induction bytes with
  | nil => rfl
  | cons byte more ih =>
      rw [List.flatMap_cons, List.append_assoc, percentBytes_escape, ih, List.cons_append]

theorem PercentText.withBytes {rest : List Char} (bytes : List UInt8) (later : PercentText rest) :
    PercentText (bytes.flatMap (fun byte => percentByte byte.toNat) ++ rest) := by
  induction bytes with
  | nil => exact later
  | cons byte more ih =>
      rw [List.flatMap_cons, List.append_assoc]
      exact ih.withByte byte

theorem percentBytes_plain {c : Char} (free : c ∈ unreserved) (rest : List Char) :
    percentBytes (c :: rest) = UInt8.ofNat c.toNat :: percentBytes rest := by
  rw [percentBytes]
  intro high low more mark
  exact absurd mark (unreserved_ascii free).2

/-! ## Characters -/

theorem percentChar_plain {c : Char} (free : c ∈ unreserved) : percentChar c = [c] :=
  if_pos (isUnreserved_iff.mpr free)

theorem percentChar_escaped {c : Char} (bound : c ∉ unreserved) :
    percentChar c = (String.utf8EncodeChar c).flatMap fun byte => percentByte byte.toNat := by
  rw [percentChar, if_neg (bound ∘ isUnreserved_iff.mp), utf8Of_usual, List.flatMap_map]

theorem percentBytes_char (c : Char) (rest : List Char) :
    percentBytes (percentChar c ++ rest) = String.utf8EncodeChar c ++ percentBytes rest := by
  by_cases free : c ∈ unreserved
  · rw [percentChar_plain free, utf8_ascii (unreserved_ascii free).1]
    exact percentBytes_plain free rest
  · rw [percentChar_escaped free, percentBytes_escapes]

theorem PercentText.withChar {rest : List Char} (c : Char) (later : PercentText rest) :
    PercentText (percentChar c ++ rest) := by
  by_cases free : c ∈ unreserved
  · rw [percentChar_plain free]
    exact .plain free later
  · rw [percentChar_escaped free]
    exact later.withBytes _

theorem percentChar_escaped_length {c : Char} (bound : c ∉ unreserved) : 1 < (percentChar c).length := by
  obtain ⟨byte, more, bytes⟩ := List.exists_cons_of_ne_nil (String.utf8EncodeChar_ne_nil (c := c))
  have three : (percentByte byte.toNat).length = 3 := rfl
  rw [percentChar_escaped bound, bytes, List.flatMap_cons, List.length_append]
  omega

theorem percentChar_length (c : Char) : 1 ≤ (percentChar c).length := by
  by_cases free : c ∈ unreserved
  · rw [percentChar_plain free, List.length_singleton]
  · exact Nat.le_of_lt (percentChar_escaped_length free)

/-! ## Texts -/

theorem percentEncode_cons (c : Char) (rest : List Char) :
    percentEncode (c :: rest) = percentChar c ++ percentEncode rest :=
  List.flatMap_cons

theorem percentEncode_append (first second : List Char) :
    percentEncode (first ++ second) = percentEncode first ++ percentEncode second :=
  List.flatMap_append

theorem percentEncode_wellFormed (text : List Char) : PercentText (percentEncode text) := by
  induction text with
  | nil => exact .empty
  | cons c rest ih => exact ih.withChar c

theorem percentBytes_encode (text : List Char) :
    percentBytes (percentEncode text) = text.flatMap String.utf8EncodeChar := by
  induction text with
  | nil => rfl
  | cons c rest ih => rw [percentEncode_cons, percentBytes_char, ih, List.flatMap_cons]

theorem percentBytes_read (text : String) :
    String.fromUTF8? (percentBytes (percentEncode text.toList)).toByteArray = some text := by
  have form : (percentBytes (percentEncode text.toList)).toByteArray = text.toByteArray := by
    rw [percentBytes_encode, ← String.utf8Encode_toList, List.utf8Encode]
  rw [form]
  exact dif_pos text.isValidUTF8

theorem percentEncode_length (text : List Char) : text.length ≤ (percentEncode text).length := by
  induction text with
  | nil => exact Nat.le_refl _
  | cons c rest ih =>
      have long := percentChar_length c
      rw [percentEncode_cons, List.length_append, List.length_cons]
      omega

/-- Every escape makes a text longer, so that only a text without any stays as it is. -/
theorem percentEncode_fixed {text : List Char} :
    percentEncode text = text ↔ ∀ c ∈ text, c ∈ unreserved := by
  constructor
  · intro same
    replace same := congrArg List.length same
    induction text with
    | nil => exact nofun
    | cons c rest ih =>
        have longer := percentEncode_length rest
        rw [percentEncode_cons, List.length_append, List.length_cons] at same
        by_cases free : c ∈ unreserved
        · rw [percentChar_plain free, List.length_singleton] at same
          exact List.forall_mem_cons.mpr ⟨free, ih (by omega)⟩
        · have long := percentChar_escaped_length free
          omega
  · intro free
    induction text with
    | nil => rfl
    | cons c rest ih =>
        obtain ⟨first, later⟩ := List.forall_mem_cons.mp free
        rw [percentEncode_cons, percentChar_plain first, ih later, List.singleton_append]

theorem urlSafe_answer (subject : Name) :
    chance.catalogue.answer .transformation "to_url_safe" [] subject.toValue =
      .ok (.ofChars (percentEncode subject.label.toList)) := by
  rw [answer_transformation Edit.urlSafe rfl rfl]
  cases subject <;> rfl

/-- What a text is encoded as consists of unreserved characters and of escapes with capital figures. With
every escape taken for its byte, the bytes are read as the text in UTF-8. Texts that are put together are
encoded one after the other, and a text stays as it is just if all of its characters are unreserved. -/
theorem encoded_texts_are_recoverable (chance : Edit.Chance) (subject : Name) :
    ∃ encoded : String,
      chance.catalogue.answer .transformation "to_url_safe" [] subject.toValue = .ok (.text encoded) ∧
      PercentText encoded.toList ∧
      String.fromUTF8? (percentBytes encoded.toList).toByteArray = some subject.label ∧
      (∀ other : Name, ∃ more : String,
        chance.catalogue.answer .transformation "to_url_safe" [] other.toValue = .ok (.text more) ∧
        chance.catalogue.answer .transformation "to_url_safe" []
          (.text (subject.label ++ other.label)) = .ok (.text (encoded ++ more))) ∧
      (encoded = subject.label ↔ ∀ c ∈ subject.label.toList, c ∈ unreserved) := by
  refine ⟨_, urlSafe_answer subject, ?wellFormed, ?read, ?parts, ?fixed⟩
  case wellFormed =>
    rw [String.toList_ofList]
    exact percentEncode_wellFormed _
  case read =>
    rw [String.toList_ofList]
    exact percentBytes_read _
  case parts =>
    intro other
    refine ⟨_, urlSafe_answer other, ?_⟩
    -- Characters are encoded one by one, so texts are encoded one after the other.
    have whole := @urlSafe_answer chance (.text (subject.label ++ other.label))
    rwa [Name.label, String.toList_append, percentEncode_append, Value.ofChars,
      String.ofList_append] at whole
  case fixed =>
    rw [← percentEncode_fixed]
    constructor
    · intro same
      rw [← String.toList_ofList (l := percentEncode subject.label.toList), same]
    · intro same
      rw [same, String.ofList_toList]

/-- A percent sign of the text is escaped like any other character that is not unreserved. -/
example : percentEncode "50%25 é€😀".toList = "50%2525%20%C3%A9%E2%82%AC%F0%9F%98%80".toList := by decide

end TextChain
