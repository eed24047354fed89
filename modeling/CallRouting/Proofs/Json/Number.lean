import CallRouting.Json.Reader
import Mathlib.Algebra.Order.Ring.Int
import Mathlib.Data.List.Basic

/-!
# Whole numbers as they are written

A whole number that a word of 64 bits holds is written as its digits, after a minus sign if it is
negative. These are read back as one literal, if what follows them cannot go on a number, and the
value of the literal is the number.
-/

namespace CallRouting

namespace Decimal

theorem digits_ne_nil (n : ℕ) : digits n ≠ [] := by
  rw [digits]
  split_ifs
  · exact List.cons_ne_nil _ _
  · exact List.append_ne_nil_of_right_ne_nil _ (List.cons_ne_nil _ _)

theorem eq_zero_of_head?_digits {n : ℕ} (h : (digits n).head? = some '0') : n = 0 := by
  induction n using Nat.strongRecOn with
  | _ n ih =>
    rw [digits] at h
    split_ifs at h with hsmall
    · have hzero : ∀ d < 10, digitChar d = '0' → d = 0 := by decide
      exact hzero n hsmall (Option.some.inj h)
    · rw [List.head?_append_of_ne_nil _ (digits_ne_nil _)] at h
      have hquotient := ih (n / 10) (by omega) h
      omega

theorem le_digitsFrom (n : ℕ) (cs : List Char) : n ≤ digitsFrom n cs := by
  induction cs generalizing n with
  | nil => exact Nat.le_refl n
  | cons c cs ih =>
    have hnext := ih (10 * n + digitValue c)
    rw [digitsFrom, List.foldl_cons, ← digitsFrom]
    omega

end Decimal

namespace Json

open Decimal

/-- Whether a number is whole and a word of 64 bits holds it, with or without a sign. -/
def Number.InWord : Number → Prop
  | .whole n => -(2 ^ 63) ≤ n ∧ n < 2 ^ 64
  | .binary _ => False

/-- The literal that a whole number is written as. -/
def Literal.ofInt (n : ℤ) : Literal := ⟨decide (n < 0), digits n.natAbs, [], none⟩

/-! ## Reading -/

/-- What follows a number does not go on with it. -/
def EndsNumber (r : List Char) : Prop :=
  ∀ c ∈ r.head?, isDigit c = false ∧ c ≠ '.' ∧ c ≠ 'e' ∧ c ≠ 'E'

section Reading

variable {r : List Char} (hr : EndsNumber r)

include hr

private theorem takeWhile_isDigit_eq_nil : r.takeWhile isDigit = [] := by
  cases r with
  | nil => rfl
  | cons c r => exact List.takeWhile_cons_of_neg (by rw [(hr c rfl).1]; exact Bool.false_ne_true)

private theorem leadingDigits_digits (n : ℕ) : leadingDigits (digits n ++ r) = digits n := by
  rw [leadingDigits, List.takeWhile_append_of_pos fun c ↦ isDigit_of_mem_digits,
    takeWhile_isDigit_eq_nil hr, List.append_nil]

private theorem afterDigits_digits (n : ℕ) : afterDigits (digits n ++ r) = r := by
  have hsplit : leadingDigits (digits n ++ r) ++ afterDigits (digits n ++ r) = digits n ++ r :=
    List.takeWhile_append_dropWhile
  rw [leadingDigits_digits hr] at hsplit
  exact List.append_cancel_left hsplit

private theorem readFraction_of_ends : readFraction r = some ([], r) := by
  cases r with
  | nil => rfl
  | cons c r =>
    rw [readFraction]
    intro other heq
    exact (hr c rfl).2.1 (List.cons.inj heq).1

private theorem readExponent_of_ends : readExponent r = some (none, r) := by
  cases r with
  | nil => rfl
  | cons c r =>
    obtain ⟨-, -, he, hE⟩ := hr c rfl
    unfold readExponent
    exact if_neg (not_or_intro he hE)

private theorem readUnsigned_digits (negative : Bool) (n : ℕ) :
    readUnsigned negative (digits n ++ r) = some (⟨negative, digits n, [], none⟩, r) := by
  -- A reader refuses a leading zero before other digits; only zero itself is written with one.
  have hwell : ¬(digits n = [] ∨ ((digits n).head? = some '0' ∧ 1 < (digits n).length)) := by
    rintro (hnil | ⟨hhead, hlong⟩)
    · exact digits_ne_nil n hnil
    · obtain rfl := eq_zero_of_head?_digits hhead
      rw [digits, if_pos (by decide)] at hlong
      exact Nat.lt_irrefl 1 hlong
  simp only [readUnsigned, leadingDigits_digits hr, if_neg hwell, afterDigits_digits hr,
    readFraction_of_ends hr, readExponent_of_ends hr]

/-- The digits of a whole number are read as its literal. -/
theorem readNumber_ofInt (n : ℤ) :
    readNumber (Decimal.ofInt n ++ r) = some (Literal.ofInt n, r) := by
  cases n with
  | ofNat n =>
    rw [Decimal.ofInt, readNumber, readUnsigned_digits hr]
    · rfl
    -- Digits do not begin with a minus sign.
    · intro other heq
      obtain ⟨c, cs, hdigits⟩ := List.exists_cons_of_ne_nil (digits_ne_nil n)
      have hc : c ∈ digits n := hdigits ▸ List.mem_cons_self
      have hdigit : isDigit c = true := isDigit_of_mem_digits hc
      rw [hdigits, List.cons_append] at heq
      rw [(List.cons.inj heq).1] at hdigit
      cases hdigit
  | negSucc n =>
    have hnegative : decide (Int.negSucc n < 0) = true := decide_eq_true (Int.negSucc_lt_zero n)
    rw [Decimal.ofInt, List.cons_append, readNumber, readUnsigned_digits hr, Literal.ofInt,
      hnegative]
    rfl

end Reading

/-! ## The value -/

/-- Digits whose number 64 bits hold are all read into the significand. -/
theorem Literal.fill_eq {significand : ℕ} {cs : List Char}
    (h : digitsFrom significand cs ≤ significandBound) :
    fill significand cs = (digitsFrom significand cs, []) := by
  induction cs generalizing significand with
  | nil => rfl
  | cons c cs ih =>
    have hnext : 10 * significand + digitValue c ≤ significandBound :=
      Nat.le_trans (le_digitsFrom _ cs) h
    rw [fill, if_pos hnext]
    exact ih h

theorem Literal.value_ofInt {n : ℤ} (h : (Number.whole n).InWord) :
    (ofInt n).value = some (.whole n) := by
  obtain ⟨hlow, hhigh⟩ := h
  have hfill : fill 0 (digits n.natAbs) = (n.natAbs, []) := by
    have hdigits : digitsFrom 0 (digits n.natAbs) = n.natAbs := ofDigits_digits n.natAbs
    have hbound : significandBound = 2 ^ 64 - 1 := rfl
    rw [fill_eq, hdigits]
    omega
  rw [value, ofInt]
  dsimp only
  rw [hfill]
  dsimp only
  -- A word with a sign holds a negative number, and one without a sign holds any other.
  by_cases hnegative : n < 0
  · have hbound : n.natAbs ≤ 2 ^ 63 := by omega
    have hvalue : -(n.natAbs : ℤ) = n := by omega
    rw [if_neg (by simp [hnegative]), if_pos ⟨rfl, by omega, hbound⟩, hvalue]
  · have hvalue : (n.natAbs : ℤ) = n := by omega
    rw [if_pos ⟨rfl, by simp [hnegative]⟩, hvalue]

end Json

end CallRouting
