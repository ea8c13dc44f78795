import TextChain.Hash
import TextChain.Operand
import Mathlib.Algebra.Group.Nat.Defs

/-!
Digits of whole numbers. The digits that a number is written with here are the common ones in bases up to
sixteen, so the decimal form of an integer is its usual text. Integers that are too long to be written are
beyond the reach of every index.
-/

namespace TextChain

section Digits
variable {base : Nat}

theorem digitChar_usual {figure : Nat} (small : figure < 16) :
    digitChar figure = Nat.digitChar figure := by
  have all : ∀ figure : Fin 16, digitChar figure = Nat.digitChar figure := by decide
  exact all ⟨figure, small⟩

theorem digitsOnto_usual (least : 0 < base) (most : base ≤ 16) (fuel n : Nat) (tail : List Char) :
    digitsOnto base fuel n tail = Nat.toDigitsCore base fuel n tail := by
  induction fuel generalizing n tail with
  | zero => rfl
  | succ fuel ih =>
      have digit : n % base < 16 := Nat.lt_of_lt_of_le (Nat.mod_lt n least) most
      -- One asks whether any number is left to write, the other whether this digit is the last.
      have last : n / base = 0 ↔ n < base := by
        rw [Nat.div_eq_zero_iff]
        omega
      rw [digitsOnto, Nat.toDigitsCore, digitChar_usual digit]
      simp only [ih, last]

theorem digits_usual (least : 0 < base) (most : base ≤ 16) (n : Nat) :
    digits base n = Nat.toDigits base n :=
  digitsOnto_usual least most (n + 1) n []

end Digits

theorem decimal_usual (n : Int) : String.ofList (decimal n) = toString n := by
  cases n with
  | ofNat n =>
      have unsigned : ¬ Int.ofNat n < 0 := Int.not_lt.mpr (Int.natCast_nonneg n)
      rw [decimal, if_neg unsigned, digits_usual (by decide) (by decide)]
      rfl
  | negSucc n =>
      rw [decimal, if_pos (Int.negSucc_lt_zero n), digits_usual (by decide) (by decide),
        String.ofList_cons]
      rfl

theorem Value.overlong_int (n : Int) : (Value.int n).overlong = true ↔ 10 ^ digitLimit ≤ n.natAbs := by
  have fits : (Nat.toDigits 10 n.natAbs).length ≤ digitLimit ↔ n.natAbs < 10 ^ digitLimit :=
    Nat.length_toDigits_le_iff (by decide) (by decide)
  rw [Value.overlong, decide_eq_true_iff, digits_usual (by decide) (by decide), ← Nat.not_le, fits,
    Nat.not_lt]

theorem Value.overlong_beyond {n : Int} (long : (Value.int n).overlong = true) :
    n < 0 ∨ Value.indexLimit < n := by
  have large := (Value.overlong_int n).mp long
  have least : 10 ^ 20 ≤ n.natAbs := Nat.le_trans (Nat.pow_le_pow_right (by decide) (by decide)) large
  simp only [Value.indexLimit]
  omega

end TextChain
