import Mathlib
import SqlDesk.Text.Ascii
import SqlDesk.Text.Layout

/-! Decimal numerals: digits have their values, and the numeral of a number is read back as the
number. -/

set_option autoImplicit false

namespace SqlDesk

namespace Text

theorem toNat_of_isDigit {c : Char} (digit : c.isDigit = true) : 48 ≤ c.toNat ∧ c.toNat ≤ 57 := by
  simp only [Char.isDigit, Bool.and_eq_true, decide_eq_true_eq, ge_iff_le, UInt32.le_iff_toNat_le] at digit
  exact digit

theorem isBlank_of_isDigit {c : Char} (digit : c.isDigit = true) : isBlank c = false := by
  have range := toNat_of_isDigit digit
  simp only [isBlank, blankRanges, List.any_cons, List.any_nil, Bool.or_false, Bool.or_eq_false_iff,
    Bool.and_eq_false_iff, decide_eq_false_iff_not]
  omega

theorem digitValue?_of_isDigit {c : Char} (digit : c.isDigit = true) :
    digitValue? c = some (c.toNat - '0'.toNat) := by
  have range := toNat_of_isDigit digit
  exact if_pos range

theorem isDigit_of_mem_numeral {c : Char} {number : Nat} (member : c ∈ Nat.toDigits 10 number) :
    c.isDigit = true := Nat.isDigit_of_mem_toDigits (by decide) (by decide) member

theorem readDigits_of_digits {digits : List Char} (all : ∀ c ∈ digits, c.isDigit = true)
    (known : Nat) : readDigits known digits = some (Nat.ofDigitChars 10 digits known) := by
  induction digits generalizing known with
  | nil => rfl
  | cons c rest ih =>
    rw [readDigits, digitValue?_of_isDigit (all c List.mem_cons_self), Option.bind_some,
      ih fun other member => all other (List.mem_cons_of_mem _ member), Nat.ofDigitChars_cons,
      Nat.mul_comm]

theorem readNatural?_toDigits {bound number : Nat} (small : number < bound) :
    readNatural? bound (Nat.toDigits 10 number) = some number := by
  have digits : ∀ c ∈ Nat.toDigits 10 number, c.isDigit = true := fun c member =>
    isDigit_of_mem_numeral member
  have some : Nat.toDigits 10 number ≠ [] := Nat.toDigits_ne_nil
  have read := readDigits_of_digits digits 0
  rw [Nat.ofDigitChars_toDigits (by decide) (by decide)] at read
  unfold readNatural?
  split
  · rename_i rest whole
    -- A numeral has no sign in front of it.
    have sign := digits '+' (whole ▸ List.mem_cons_self)
    cases sign
  · simp [some, read, small]

theorem le_ofDigitChars (digits : List Char) (known : Nat) :
    known ≤ Nat.ofDigitChars 10 digits known := by
  induction digits generalizing known with
  | nil => exact Nat.le_refl known
  | cons c rest ih =>
    rw [Nat.ofDigitChars_cons]
    have grown := ih (10 * known + (c.toNat - '0'.toNat))
    omega

theorem toDigits_of_leading_zero {number : Nat} {rest : List Char}
    (leading : Nat.toDigits 10 number = '0' :: rest) : rest = [] := by
  have zero : number = 0 := by
    induction number using Nat.strongRecOn generalizing rest with
    | ind number ih =>
      by_cases small : number < 10
      · rw [Nat.toDigits_of_lt_base small] at leading
        have first := (List.cons.inj leading).1
        interval_cases number <;> simp_all
      -- The first digit is also that of the number without its last digit.
      · rw [Nat.toDigits_of_base_le (by decide) (by omega)] at leading
        cases front : Nat.toDigits 10 (number / 10) with
        | nil => exact absurd front Nat.toDigits_ne_nil
        | cons first others =>
          rw [front, List.cons_append] at leading
          obtain ⟨rfl, -⟩ := List.cons.inj leading
          have := ih (number / 10) (by omega) front
          omega
  subst zero
  exact (List.cons.inj leading).2.symm

end Text

end SqlDesk
