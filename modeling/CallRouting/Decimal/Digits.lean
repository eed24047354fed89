/-!
# Decimal digits

The decimal digits of a natural number, most significant first, and the number that a run of
digits stands for. Reading inverts writing.
-/

namespace CallRouting.Decimal

/-- The character of a digit below ten. -/
def digitChar (d : Nat) : Char := Char.ofNat ('0'.toNat + d % 10)

/-- The value of a digit character. -/
def digitValue (c : Char) : Nat := c.toNat - '0'.toNat

/-- Whether a character is one of the ten digits. -/
def isDigit (c : Char) : Bool := '0' ≤ c && c ≤ '9'

/-- The digits of a natural number, without leading zeros. -/
def digits (n : Nat) : List Char :=
  if n < 10 then [digitChar n] else digits (n / 10) ++ [digitChar (n % 10)]
termination_by n

/-- The number that a run of digits stands for, after the digits that were read before it. -/
def digitsFrom (n : Nat) (cs : List Char) : Nat :=
  cs.foldl (fun n c ↦ 10 * n + digitValue c) n

/-- The number that a run of digits stands for. -/
def ofDigits (cs : List Char) : Nat := digitsFrom 0 cs

/-- A whole number in decimal, with a minus sign if it is negative. -/
def ofInt : Int → List Char
  | .ofNat n => digits n
  | .negSucc n => '-' :: digits (n + 1)

theorem digitValue_digitChar {d : Nat} (h : d < 10) : digitValue (digitChar d) = d := by
  revert d; decide

theorem isDigit_digitChar {d : Nat} (h : d < 10) : isDigit (digitChar d) = true := by
  revert d; decide

/-- Reading the digits of a number gives the number. -/
theorem ofDigits_digits (n : Nat) : ofDigits (digits n) = n := by
  induction n using Nat.strongRecOn with
  | _ n ih =>
    unfold digits
    by_cases h : n < 10
    · simp [h, ofDigits, digitsFrom, digitValue_digitChar h]
    · have hm : n % 10 < 10 := Nat.mod_lt _ (by omega)
      have := ih (n / 10) (by omega)
      simp only [ofDigits, digitsFrom] at this
      simp [h, ofDigits, digitsFrom, List.foldl_append, this, digitValue_digitChar hm]
      omega

/-- The digits of a number are digits. -/
theorem isDigit_of_mem_digits {n : Nat} {c : Char} (h : c ∈ digits n) : isDigit c = true := by
  induction n using Nat.strongRecOn with
  | _ n ih =>
    unfold digits at h
    by_cases hn : n < 10
    · simp only [hn, if_true, List.mem_singleton] at h
      exact h ▸ isDigit_digitChar hn
    · simp only [hn, if_false, List.mem_append, List.mem_singleton] at h
      rcases h with h | rfl
      · exact ih (n / 10) (by omega) h
      · exact isDigit_digitChar (Nat.mod_lt _ (by omega))

end CallRouting.Decimal
