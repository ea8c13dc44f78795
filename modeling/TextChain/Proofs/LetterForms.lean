import TextChain.LetterCase
import Mathlib.Data.List.Basic

/-!
Small letters. A letter that has been made small stays as it is, whatever stands around it, and so does a
text of such letters. The tables of letters are checked shift against shift: what a shift leads to is not
touched by any shift of the table.
-/

namespace TextChain

/-! ## Spans -/

def Outside (spans : List Span) (point : Nat) : Prop :=
  ∀ span ∈ spans, point < span.low ∨ span.high < point

instance (spans : List Span) (point : Nat) : Decidable (Outside spans point) :=
  inferInstanceAs (Decidable (∀ span ∈ spans, point < span.low ∨ span.high < point))

theorem Outside.uncovered {spans : List Span} {point : Nat} (outside : Outside spans point) :
    Span.covers spans point = false := by
  induction spans with
  | nil => rfl
  | cons span rest ih =>
      rw [Span.covers, ih fun other listed => outside other (List.mem_cons_of_mem _ listed)]
      rcases outside span List.mem_cons_self with below | above
      · rw [if_pos below]
      · rw [if_neg (Nat.not_le_of_gt above), ite_self]

def surrogates : List Span := [⟨0xD800, 0xDFFF⟩]

theorem toNat_ofNat {point : Nat} (least : Outside surrogates point) (most : point < 0x110000) :
    (Char.ofNat point).toNat = point := by
  have valid : point.isValidChar := by
    rcases least _ List.mem_cons_self with below | above
    · exact Or.inl below
    · exact Or.inr ⟨above, most⟩
  rw [Char.ofNat, dif_pos valid]
  rfl

/-! ## Shifts -/

namespace Shift

def image (shift : Shift) : Shift :=
  ⟨shift.apply shift.low, shift.apply shift.high, shift.step, 0⟩

def alternates (shift : Shift) : Bool :=
  shift.step % 2 == 0 || shift.low == shift.high

def apart (first second : Shift) : Bool :=
  first.high.blt second.low || second.high.blt first.low ||
    (first.alternates && second.alternates && first.low % 2 != second.low % 2)

def lands (spans : List Span) (shift : Shift) : Bool :=
  shift.image.high.blt 0x110000 &&
    spans.all fun span => shift.image.high.blt span.low || span.high.blt shift.image.low

section Points
variable {first second shift : Shift} {point : Nat}

theorem touches_iff : shift.touches point = true ↔
    shift.low ≤ point ∧ point ≤ shift.high ∧ (point - shift.low) % shift.step = 0 := by
  simp [touches, and_assoc]

theorem alternates_parity (alternates : shift.alternates = true) (touched : shift.touches point = true) :
    point % 2 = shift.low % 2 := by
  obtain ⟨least, most, whole⟩ := touches_iff.mp touched
  simp only [Shift.alternates, Bool.or_eq_true, beq_iff_eq] at alternates
  rcases alternates with even | single
  · have rest : (point - shift.low) % 2 = 0 := by
      rw [← Nat.mod_mod_of_dvd _ (Nat.dvd_of_mod_eq_zero even), whole]
    omega
  · omega

theorem apart_untouched (apart : first.apart second = true) (touched : first.touches point = true) :
    second.touches point = false := by
  by_contra also
  rw [Bool.not_eq_false] at also
  obtain ⟨least, most, _⟩ := touches_iff.mp touched
  obtain ⟨alsoLeast, alsoMost, _⟩ := touches_iff.mp also
  simp only [Shift.apart, Bool.or_eq_true, Bool.and_eq_true, Nat.blt_eq, bne_iff_ne] at apart
  rcases apart with (below | above) | ⟨⟨one, other⟩, parity⟩
  · omega
  · omega
  · exact parity ((alternates_parity one touched).symm.trans (alternates_parity other also))

theorem image_bounds (touched : shift.touches point = true) :
    shift.image.low ≤ shift.apply point ∧ shift.apply point ≤ shift.image.high := by
  obtain ⟨least, most, _⟩ := touches_iff.mp touched
  constructor
  all_goals
    simp only [image, apply]
    omega

theorem image_touches (forward : 0 ≤ shift.low + shift.distance) (touched : shift.touches point = true) :
    shift.image.touches (shift.apply point) = true := by
  obtain ⟨least, _, whole⟩ := touches_iff.mp touched
  have same : shift.apply point - shift.apply shift.low = point - shift.low := by
    simp only [apply]
    omega
  exact touches_iff.mpr ⟨(image_bounds touched).1, (image_bounds touched).2, same ▸ whole⟩

theorem lands_outside {spans : List Span} (landed : shift.lands spans = true)
    (touched : shift.touches point = true) :
    Outside spans (shift.apply point) ∧ shift.apply point < 0x110000 := by
  obtain ⟨least, most⟩ := image_bounds touched
  simp only [lands, Bool.and_eq_true, List.all_eq_true, Bool.or_eq_true, Nat.blt_eq] at landed
  exact ⟨fun span listed => (landed.2 span listed).imp (by omega) (by omega), by omega⟩

end Points

/-! ## Tables -/

section Tables
variable {table : List Shift} {point : Nat}

theorem move_cases (table : List Shift) (point : Nat) :
    move table point = point ∨
      ∃ shift ∈ table, shift.touches point = true ∧ move table point = shift.apply point := by
  induction table with
  | nil => exact Or.inl rfl
  | cons shift rest ih =>
      rw [move]
      split
      · exact Or.inl rfl
      · split
        next touched => exact Or.inr ⟨shift, List.mem_cons_self, touched, rfl⟩
        next =>
          rcases ih with stays | ⟨other, listed, moved⟩
          · exact Or.inl stays
          · exact Or.inr ⟨other, List.mem_cons_of_mem _ listed, moved⟩

theorem move_untouched (untouched : ∀ shift ∈ table, shift.touches point = false) :
    move table point = point := by
  rcases move_cases table point with stays | ⟨shift, listed, touched, _⟩
  · exact stays
  · rw [untouched shift listed] at touched
    cases touched

def settles (table : List Shift) : Bool :=
  table.all fun shift => decide (0 ≤ shift.low + shift.distance) && table.all shift.image.apart

theorem settles_untouched (settled : settles table = true) {shift : Shift} (listed : shift ∈ table)
    (touched : shift.touches point = true) :
    ∀ other ∈ table, other.touches (shift.apply point) = false := by
  intro other also
  simp only [settles, List.all_eq_true, Bool.and_eq_true, decide_eq_true_eq] at settled
  obtain ⟨forward, apart⟩ := settled shift listed
  exact apart_untouched (apart other also) (image_touches forward touched)

theorem move_char {spans : List Span} (landed : table.all (lands (surrogates ++ spans)) = true) (c : Char) :
    Char.ofNat (move table c.toNat) = c ∨
      ∃ shift ∈ table, shift.touches c.toNat = true ∧
        (Char.ofNat (move table c.toNat)).toNat = shift.apply c.toNat ∧
        Outside spans (Char.ofNat (move table c.toNat)).toNat := by
  rcases move_cases table c.toNat with stays | ⟨shift, listed, touched, moved⟩
  · rw [stays, Char.ofNat_toNat]
    exact Or.inl rfl
  · obtain ⟨outside, most⟩ := lands_outside (List.all_eq_true.mp landed shift listed) touched
    have point : (Char.ofNat (shift.apply c.toNat)).toNat = shift.apply c.toNat :=
      toNat_ofNat (fun span among => outside span (List.mem_append_left _ among)) most
    rw [moved, point]
    exact Or.inr ⟨shift, listed, touched, rfl, fun span among => outside span (List.mem_append_right _ among)⟩

end Tables

end Shift

theorem lowerShifts_settle : Shift.settles lowerShifts = true := by decide +kernel

theorem lowerShifts_land : lowerShifts.all (Shift.lands (surrogates ++ [⟨304, 304⟩])) = true := by
  decide +kernel

theorem expansion_listed {table : List (Nat × List Nat)} {point : Nat} {letters : List Nat}
    (expanded : expansion? table point = some letters) : ∃ entry ∈ table, entry.2 = letters := by
  induction table with
  | nil => cases expanded
  | cons entry rest ih =>
      rw [expansion?] at expanded
      split at expanded
      · cases expanded
      · split at expanded
        · exact ⟨entry, List.mem_cons_self, Option.some.inj expanded⟩
        · obtain ⟨other, listed, same⟩ := ih expanded
          exact ⟨other, List.mem_cons_of_mem _ listed, same⟩

/-! ## Small letters -/

def Small (c : Char) : Prop :=
  c ≠ 'Σ' ∧ lowerOf c = [c]

theorem lowerOf_moved {c : Char} (plain : c.toNat ≠ 304) :
    lowerOf c = [Char.ofNat (Shift.move lowerShifts c.toNat)] :=
  if_neg plain

theorem small_moved {c : Char} (unlike : c ≠ 'Σ') (plain : c.toNat ≠ 304) :
    Small (Char.ofNat (Shift.move lowerShifts c.toNat)) := by
  rcases Shift.move_char lowerShifts_land c with stays | ⟨shift, listed, touched, moved, outside⟩
  · rw [stays]
    exact ⟨unlike, (lowerOf_moved plain).trans (congrArg (fun d => [d]) stays)⟩
  · generalize Char.ofNat (Shift.move lowerShifts c.toNat) = d at moved outside
    have untouched := moved ▸ Shift.settles_untouched lowerShifts_settle listed touched
    constructor
    · -- the capital sigma would be moved itself
      intro sigma
      have meets := untouched ⟨931, 939, 1, 32⟩ (by decide)
      rw [sigma] at meets
      exact absurd meets (by decide)
    · have away : d.toNat ≠ 304 := fun same => by
        rcases outside _ List.mem_cons_self with below | above
        · exact Nat.ne_of_lt below same
        · exact Nat.ne_of_gt above same
      rw [lowerOf_moved away, Shift.move_untouched untouched, Char.ofNat_toNat]

theorem lowerOf_small {c d : Char} (unlike : c ≠ 'Σ') (listed : d ∈ lowerOf c) : Small d := by
  by_cases plain : c.toNat = 304
  · rw [lowerOf, if_pos plain] at listed
    rcases List.mem_pair.mp listed with rfl | rfl
    · exact ⟨by decide, by decide⟩
    · exact ⟨by decide, by decide +kernel⟩
  · rw [lowerOf_moved plain, List.mem_singleton] at listed
    exact listed ▸ small_moved unlike plain

theorem lowerSigma_small (before after : List Char) : Small (lowerSigma before after) := by
  rw [lowerSigma]
  split
  · exact ⟨by decide, by decide +kernel⟩
  · exact ⟨by decide, by decide +kernel⟩

theorem lowerWithin_small {before after : List Char} {c d : Char} (listed : d ∈ lowerWithin before after c) :
    Small d := by
  rw [lowerWithin] at listed
  split at listed
  next => exact List.mem_singleton.mp listed ▸ lowerSigma_small before after
  next unlike => exact lowerOf_small unlike listed

theorem lowerWithin_ne_nil (before after : List Char) (c : Char) : lowerWithin before after c ≠ [] := by
  rw [lowerWithin, lowerOf]
  split
  · exact List.cons_ne_nil _ _
  · split <;> exact List.cons_ne_nil _ _

theorem Small.stays {c : Char} (small : Small c) (before after : List Char) :
    lowerWithin before after c = [c] :=
  (if_neg small.1).trans small.2

theorem Small.not_capital {c : Char} (small : Small c) : Ascii.isUpper c = false := by
  rw [Bool.eq_false_iff]
  intro capital
  simp only [Ascii.isUpper, Bool.and_eq_true, decide_eq_true_eq] at capital
  have least : 65 ≤ c.toNat := capital.1
  have most : c.toNat ≤ 90 := capital.2
  have moves : ∀ n : Fin 26, lowerOf (Char.ofNat (65 + n)) ≠ [Char.ofNat (65 + n)] := by decide +kernel
  have moved := moves ⟨c.toNat - 65, by omega⟩
  simp only [Nat.add_sub_cancel' least, Char.ofNat_toNat] at moved
  exact moved small.2

/-! ## Small texts -/

def lowerFrom (before : List Char) : List Char → List Char
  | [] => []
  | c :: rest => lowerWithin before rest c ++ lowerFrom (c :: before) rest

theorem lowerOnto_eq (done before text : List Char) :
    lowerOnto done before text = done.reverse ++ lowerFrom before text := by
  induction text generalizing done before with
  | nil => simp [lowerOnto, lowerFrom]
  | cons c rest ih => simp [lowerOnto, lowerFrom, ih]

theorem lower_eq (text : List Char) : lower text = lowerFrom [] text :=
  lowerOnto_eq [] [] text

theorem mem_lower {text : List Char} {d : Char} (listed : d ∈ lower text) :
    ∃ c ∈ text, ∃ before after : List Char, d ∈ lowerWithin before after c := by
  rw [lower_eq] at listed
  generalize [] = before at listed
  induction text generalizing before with
  | nil => cases listed
  | cons c rest ih =>
      rcases List.mem_append.mp listed with first | later
      · exact ⟨c, List.mem_cons_self, before, rest, first⟩
      · obtain ⟨other, among, place⟩ := ih _ later
        exact ⟨other, List.mem_cons_of_mem _ among, place⟩

theorem lower_small {text : List Char} : ∀ c ∈ lower text, Small c := by
  intro d listed
  obtain ⟨c, _, before, after, made⟩ := mem_lower listed
  exact lowerWithin_small made

theorem lower_stays {text : List Char} (small : ∀ c ∈ text, Small c) : lower text = text := by
  rw [lower_eq]
  generalize [] = before
  induction text generalizing before with
  | nil => rfl
  | cons c rest ih =>
      rw [lowerFrom, (small c List.mem_cons_self).stays,
        ih (fun d later => small d (List.mem_cons_of_mem _ later))]
      rfl

theorem lower_lower (text : List Char) : lower (lower text) = lower text :=
  lower_stays lower_small

end TextChain
