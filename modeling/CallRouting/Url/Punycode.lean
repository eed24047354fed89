/-!
# Letters and digits for other scripts

A label of a domain name that has characters outside ASCII is written in letters, digits and
hyphens: first its ASCII characters, then, after a hyphen, the places and code points of the others
as differences in a variable-length notation to the base 36. The thresholds of the notation adapt
to the size of the differences.
-/

namespace CallRouting.Url.Punycode

/-- The character of a digit below 36. -/
def digitChar (d : Nat) : Char :=
  if d < 26 then Char.ofNat ('a'.toNat + d) else Char.ofNat ('0'.toNat + (d - 26))

/-- The value of a digit. -/
def digitValue? (c : Char) : Option Nat :=
  if 'a' ≤ c ∧ c ≤ 'z' then some (c.toNat - 'a'.toNat)
  else if 'A' ≤ c ∧ c ≤ 'Z' then some (c.toNat - 'A'.toNat)
  else if '0' ≤ c ∧ c ≤ '9' then some (c.toNat - '0'.toNat + 26)
  else none

/-- The threshold of a digit, by the sum of 36 over it and the digits before it. -/
def threshold (k bias : Nat) : Nat :=
  if k ≤ bias then 1 else if bias + 26 ≤ k then 26 else k - bias

theorem one_le_threshold (k bias : Nat) : 1 ≤ threshold k bias := by
  unfold threshold; split <;> (try split) <;> omega

theorem threshold_le (k bias : Nat) : threshold k bias ≤ 26 := by
  unfold threshold; split <;> (try split) <;> omega

/-- Divides a difference until it is small, and counts the divisions in steps of 36. -/
def damp (delta k : Nat) : Nat × Nat :=
  if 455 < delta then damp (delta / 35) (k + 36) else (delta, k)
termination_by delta

/-- The bias after a difference, when so many characters are in place. -/
def adapt (delta points : Nat) (first : Bool) : Nat :=
  let delta := if first then delta / 700 else delta / 2
  let (delta, k) := damp (delta + delta / points) 0
  k + 36 * delta / (delta + 38)

/-- The digits of a difference. -/
def deltaDigits (q k bias : Nat) : List Char :=
  let t := threshold k bias
  if q < t then [digitChar q]
  else digitChar (t + (q - t) % (36 - t)) :: deltaDigits ((q - t) / (36 - t)) (k + 36) bias
termination_by q
decreasing_by
  have h₁ := one_le_threshold k bias
  have h₂ := threshold_le k bias
  have : (q - threshold k bias) / (36 - threshold k bias) ≤ q - threshold k bias :=
    Nat.div_le_self _ _
  omega

/-- The state of a writer between two characters. -/
structure State where
  /-- The difference that has grown since the last character written. -/
  delta : Nat
  /-- The bias of the notation. -/
  bias : Nat
  /-- How many characters are written. -/
  handled : Nat

/-- Writes all occurrences of the code point `n` in a label that has `basic` characters of ASCII. -/
def writePoint (n basic : Nat) : List Char → State → List Char × State
  | [], s => ([], s)
  | c :: rest, s =>
    if c.toNat < n then writePoint n basic rest { s with delta := s.delta + 1 }
    else if c.toNat = n then
      let ds := deltaDigits s.delta 36 s.bias
      let s' : State := ⟨0, adapt s.delta (s.handled + 1) (s.handled == basic), s.handled + 1⟩
      let (out, s'') := writePoint n basic rest s'
      (ds ++ out, s'')
    else writePoint n basic rest s

/-- Writes the code points of a list, which rises, from the point `n` on. -/
def writePoints (label : List Char) (basic : Nat) : Nat → List Nat → State → List Char
  | _, [], _ => []
  | n, m :: rest, s =>
    let s := { s with delta := s.delta + (m - n) * (s.handled + 1) }
    let (out, s) := writePoint m basic label s
    out ++ writePoints label basic (m + 1) rest { s with delta := s.delta + 1 }

/-- A label in letters, digits and hyphens. -/
def write (label : List Char) : List Char :=
  let basic := label.filter fun c ↦ c.toNat < 0x80
  let others := ((label.filter fun c ↦ !(c.toNat < 0x80)).map Char.toNat).eraseDups
  let points := others.mergeSort fun a b ↦ a ≤ b
  (if basic.isEmpty then [] else basic ++ ['-'])
    ++ writePoints label basic.length 0x80 points ⟨0, 72, basic.length⟩

/-- Reads a difference: its value and the digits that remain. -/
def readDelta (k bias weight value : Nat) : List Char → Option (Nat × List Char)
  | [] => none
  | c :: rest =>
    match digitValue? c with
    | none => none
    | some d =>
      let value := value + d * weight
      let t := threshold k bias
      if d < t then some (value, rest) else readDelta (k + 36) bias (weight * (36 - t)) value rest

theorem length_lt_of_readDelta {k bias w v : Nat} {s : List Char} {x : Nat × List Char}
    (h : readDelta k bias w v s = some x) : x.2.length < s.length := by
  induction s generalizing k w v with
  | nil => simp [readDelta] at h
  | cons c rest ih =>
    unfold readDelta at h
    split at h
    · simp at h
    · simp only at h
      split at h
      · cases h; simp
      · have := ih h
        simp only [List.length_cons]
        omega

/-- The greatest number that the notation holds. -/
def greatest : Nat := Nat.pow 2 32 - 1

/-- Reads differences and puts their characters in place. -/
def readPoints (n i bias : Nat) (out : List Char) (s : List Char) : Option (List Char) :=
  if s.isEmpty then some out
  else
    match _h : readDelta 36 bias 1 0 s with
    | none => none
    | some (delta, rest) =>
      let size := out.length + 1
      let place := i + delta
      let point := n + place / size
      let spot := place % size
      if place > greatest ∨ point > 0x10FFFF ∨ (0xD800 ≤ point ∧ point ≤ 0xDFFF) then none
      else
        readPoints point (spot + 1) (adapt delta size (out.all fun c ↦ c.toNat < 0x80))
          (out.take spot ++ Char.ofNat point :: out.drop spot) rest
termination_by s.length
decreasing_by exact length_lt_of_readDelta _h

/-- The label that letters, digits and hyphens stand for. -/
def read (s : List Char) : Option (List Char) :=
  let tail := (s.reverse.takeWhile (· != '-')).reverse
  let basic := s.take (s.length - tail.length - 1)
  if tail.length = s.length then readPoints 0x80 0 72 [] s
  else if basic.isEmpty then readPoints 0x80 0 72 [] tail
  else readPoints 0x80 0 72 basic tail

end CallRouting.Url.Punycode
